import Colloquy.Text.Quoted
import Mathlib.Data.List.Basic

/-!
# Reading quoted texts

A quoted text says where it ends, whatever it quotes and whatever follows. A character is read back
from the way it is written between quotes, and no character is written with a quote at its start, so
the first such quote closes the text. A quoted text is moreover on one line.
-/

namespace Colloquy.Text

/-! ### Hexadecimal numbers -/

/-- The value of a hexadecimal digit. -/
def hexDigitValue (digit : Char) : Nat :=
  if digit.toNat < 58 then digit.toNat - 48 else digit.toNat - 87

/-- The number that hexadecimal digits stand for. -/
def hexValue (digits : List Char) : Nat :=
  digits.foldl (fun value digit ↦ 16 * value + hexDigitValue digit) 0

/-- A digit is read back. -/
theorem hexDigitValue_hexDigit {n : Nat} (h : n < 16) : hexDigitValue (hexDigit n) = n := by
  have hall : ∀ n < 16, hexDigitValue (hexDigit n) = n := by decide
  exact hall n h

/-- A number is read back from its digits. -/
theorem hexValue_hexDigits (n : Nat) : hexValue (hexDigits n) = n := by
  induction n using hexDigits.induct with
  | case1 n h =>
    rw [hexDigits, if_pos h, hexValue, List.foldl_cons, List.foldl_nil, hexDigitValue_hexDigit h]
    omega
  | case2 n h ih =>
    have hlast : hexDigitValue (hexDigit (n % 16)) = n % 16 :=
      hexDigitValue_hexDigit (Nat.mod_lt n (by decide))
    rw [hexValue] at ih
    rw [hexDigits, if_neg h, hexValue, List.foldl_append, ih, List.foldl_cons, List.foldl_nil,
      hlast]
    omega

/-- The digits of a number are digits. -/
theorem exists_of_mem_hexDigits {n : Nat} {c : Char} (h : c ∈ hexDigits n) :
    ∃ digit < 16, c = hexDigit digit := by
  induction n using hexDigits.induct with
  | case1 n hn =>
    rw [hexDigits, if_pos hn] at h
    exact ⟨n, hn, List.mem_singleton.mp h⟩
  | case2 n hn ih =>
    rw [hexDigits, if_neg hn, List.mem_append, List.mem_singleton] at h
    exact h.elim ih fun hlast ↦ ⟨n % 16, Nat.mod_lt n (by decide), hlast⟩

/-- A character that is no digit is not among the digits of a number. -/
theorem not_mem_hexDigits {c : Char} (h : ∀ digit < 16, c ≠ hexDigit digit) (n : Nat) :
    c ∉ hexDigits n := by
  intro hc
  obtain ⟨digit, hdigit, heq⟩ := exists_of_mem_hexDigits hc
  exact h digit hdigit heq

/-! ### Characters between quotes -/

/-- The character that stands after a backslash for another one. -/
def unescape : Char → Char
  | 'n' => '\n'
  | 'r' => '\r'
  | 't' => '\t'
  | '0' => '\x00'
  | c => c

/-- The first character that is written between quotes, and what follows it. -/
def readChar? : List Char → Option (Char × List Char)
  | '\\' :: 'u' :: '\x7b' :: rest =>
    let digits := rest.takeWhile (· ≠ '\x7d')
    some (Char.ofNat (hexValue digits), rest.drop (digits.length + 1))
  | '\\' :: c :: rest => some (unescape c, rest)
  | c :: rest => some (c, rest)
  | [] => none

/-- A character is read back, whatever follows. -/
theorem readChar?_quotedChar (c : Char) (rest : List Char) :
    readChar? (quotedChar c ++ rest) = some (c, rest) := by
  unfold quotedChar
  split
  iterate 6 rfl
  next _ hbackslash _ _ _ _ =>
    split
    · have hdigits : ∀ digit ∈ hexDigits c.toNat, decide (digit ≠ '\x7d') = true := by
        intro digit hdigit
        rw [decide_eq_true_eq]
        rintro rfl
        exact not_mem_hexDigits (by decide) c.toNat hdigit
      have htake : (hexDigits c.toNat ++ '\x7d' :: rest).takeWhile (· ≠ '\x7d') =
          hexDigits c.toNat := by
        rw [List.takeWhile_append_of_pos hdigits, List.takeWhile_cons_of_neg (by decide),
          List.append_nil]
      have hdrop : (hexDigits c.toNat ++ '\x7d' :: rest).drop ((hexDigits c.toNat).length + 1) =
          rest := by
        rw [← List.drop_drop, List.drop_left]
        rfl
      simp only [List.cons_append, List.nil_append, List.append_assoc, readChar?, htake,
        hexValue_hexDigits, hdrop, Char.ofNat_toNat]
    · rw [List.singleton_append, readChar?]
      · exact fun _ h ↦ absurd h hbackslash
      · exact fun _ _ h ↦ absurd h hbackslash

/-- No character is written with a quote at its start. -/
theorem quotedChar_append_ne (c : Char) (rest later : List Char) :
    quotedChar c ++ rest ≠ '"' :: later := by
  unfold quotedChar
  split
  iterate 6 exact fun h ↦ nomatch h
  next hquote _ _ _ _ _ =>
    split
    · exact fun h ↦ nomatch h
    · exact fun h ↦ hquote (List.cons.inj h).1

/-- The character that is written and what follows it are determined by the two together. -/
theorem quotedChar_append_inj {c c' : Char} {rest rest' : List Char}
    (h : quotedChar c ++ rest = quotedChar c' ++ rest') : c = c' ∧ rest = rest' := by
  have hread := congrArg readChar? h
  rw [readChar?_quotedChar, readChar?_quotedChar] at hread
  exact Prod.mk.inj (Option.some.inj hread)

/-- A character is not written with a line break in it. -/
theorem lineBreak_not_mem_quotedChar {lineBreak : Char}
    (hbreak : lineBreak = '\n' ∨ lineBreak = '\r') (c : Char) : lineBreak ∉ quotedChar c := by
  have hdigit : ∀ digit < 16, lineBreak ≠ hexDigit digit := by
    obtain rfl | rfl := hbreak <;> decide
  unfold quotedChar
  split
  iterate 6 obtain rfl | rfl := hbreak <;> decide
  next _ _ hfeed hreturn _ _ =>
    split
    · have hdigits := not_mem_hexDigits hdigit c.toNat
      obtain rfl | rfl := hbreak <;> simp [hdigits]
    · rw [List.mem_singleton]
      rintro rfl
      exact hbreak.elim hfeed hreturn

/-! ### Texts between quotes -/

/-- If every item is determined by the way it is written, whatever follows, then so is a list of
items that is followed by something that starts no item. -/
theorem flatMap_append_inj {α : Type} {write : α → List Char} (good : α → Prop)
    (stops : List Char → Prop)
    (hwrite : ∀ {a a' : α} {rest rest' : List Char}, good a → good a' →
      write a ++ rest = write a' ++ rest' → a = a' ∧ rest = rest')
    (hstops : ∀ {a : α} (rest : List Char), good a → ¬ stops (write a ++ rest))
    {items items' : List α} {rest rest' : List Char} (hitems : ∀ a ∈ items, good a)
    (hitems' : ∀ a ∈ items', good a) (hrest : stops rest) (hrest' : stops rest')
    (h : items.flatMap write ++ rest = items'.flatMap write ++ rest') :
    items = items' ∧ rest = rest' := by
  induction items generalizing items' with
  | nil =>
    cases items' with
    | nil => exact ⟨rfl, h⟩
    | cons a' later' =>
      rw [List.flatMap_nil, List.nil_append, List.flatMap_cons, List.append_assoc] at h
      exact absurd (h ▸ hrest) (hstops _ (hitems' a' List.mem_cons_self))
  | cons a later ih =>
    obtain ⟨ha, hlater⟩ := List.forall_mem_cons.mp hitems
    cases items' with
    | nil =>
      rw [List.flatMap_nil, List.nil_append, List.flatMap_cons, List.append_assoc] at h
      exact absurd (h ▸ hrest') (hstops _ ha)
    | cons a' later' =>
      obtain ⟨ha', hlater'⟩ := List.forall_mem_cons.mp hitems'
      rw [List.flatMap_cons, List.flatMap_cons, List.append_assoc, List.append_assoc] at h
      obtain ⟨rfl, htail⟩ := hwrite ha ha' h
      obtain ⟨rfl, rfl⟩ := ih hlater hlater' htail
      exact ⟨rfl, rfl⟩

/-- The characters of a quoted text. -/
theorem toList_quoted (text : String) :
    (quoted text).toList = '"' :: (text.toList.flatMap quotedChar ++ ['"']) :=
  String.toList_ofList

/-- The text that is quoted and what follows it are determined by the two together. -/
theorem quoted_append_inj {text text' : String} {rest rest' : List Char}
    (h : (quoted text).toList ++ rest = (quoted text').toList ++ rest') :
    text = text' ∧ rest = rest' := by
  simp only [toList_quoted, List.cons_append, List.append_assoc, List.nil_append,
    List.cons.injEq, true_and] at h
  obtain ⟨htext, hrest⟩ := flatMap_append_inj (fun _ ↦ True)
    (fun later ↦ ∃ outside, later = '"' :: outside) (fun _ _ h ↦ quotedChar_append_inj h)
    (fun rest _ ⟨later, hlater⟩ ↦ quotedChar_append_ne _ rest later hlater)
    (fun _ _ ↦ trivial) (fun _ _ ↦ trivial) ⟨rest, rfl⟩ ⟨rest', rfl⟩ h
  exact ⟨String.toList_inj.mp htext, (List.cons.inj hrest).2⟩

/-- A quoted text is on one line. -/
theorem lineBreak_not_mem_quoted {lineBreak : Char}
    (hbreak : lineBreak = '\n' ∨ lineBreak = '\r') (text : String) :
    lineBreak ∉ (quoted text).toList := by
  have hquote : lineBreak ≠ '"' := by
    obtain rfl | rfl := hbreak <;> decide
  simp only [toList_quoted, List.mem_cons, List.mem_append, List.mem_flatMap, List.not_mem_nil,
    or_false, hquote, false_or, not_exists, not_and]
  exact fun c _ ↦ lineBreak_not_mem_quotedChar hbreak c

end Colloquy.Text
