import Colloquy.Text.Blank
import Colloquy.Text.Lines
import Mathlib.Data.List.DropRight

/-!
# Trimmed lines

A text is trimmed when neither of its ends is white space. Trimming makes it so and leaves it so.
Lines that are joined by line feeds are the pieces of what they are joined to.
-/

namespace Colloquy.Text

variable {cs : List Char}

/-! ### Both ends -/

section

variable {p q : Char → Bool} {core front back : List Char}

/-- Nothing is removed from the end of a text beyond a character that stays. -/
theorem dropEndWhile_append (h : ∀ c ∈ front.getLast?, p c = false) (back : List Char) :
    dropEndWhile p (front ++ back) = front ++ dropEndWhile p back := by
  have hfront : front.reverse.dropWhile p = front.reverse := by
    rw [List.dropWhile_eq_self_iff]
    intro hlength
    have hlast := h front.reverse[0] (by simp [List.getLast?_eq_getElem?])
    exact Bool.eq_false_iff.mp hlast
  rw [dropEndWhile, dropEndWhile, List.reverse_append, List.dropWhile_append, hfront]
  split
  next hempty => simp [List.isEmpty_iff.mp hempty]
  next => rw [List.reverse_append, List.reverse_reverse]

/-- An end that goes as a whole leaves what is in front of it. -/
theorem dropEndWhile_append_of_forall (hcore : ∀ c ∈ core.getLast?, p c = false)
    (hback : ∀ c ∈ back, p c = true) : dropEndWhile p (core ++ back) = core := by
  have hnil : dropEndWhile p back = [] := List.rdropWhile_eq_nil_iff.mpr hback
  rw [dropEndWhile_append hcore, hnil, List.append_nil]

/-- What is left of a text is what it has between two ends that go, if it starts and ends with
characters that stay. -/
theorem dropEndWhile_dropWhile_eq_iff (hhead : ∀ c ∈ core.head?, p c = false)
    (hlast : ∀ c ∈ core.getLast?, q c = false) :
    dropEndWhile q (cs.dropWhile p) = core ↔
      ∃ front back, cs = front ++ (core ++ back) ∧ (∀ c ∈ front, p c = true) ∧
        ∀ c ∈ back, q c = true := by
  constructor
  · intro h
    refine ⟨cs.takeWhile p, ((cs.dropWhile p).reverse.takeWhile q).reverse, ?_, ?_, ?_⟩
    · rw [← h, dropEndWhile, ← List.reverse_append, List.takeWhile_append_dropWhile,
        List.reverse_reverse, List.takeWhile_append_dropWhile]
    · exact fun c hc ↦ List.mem_takeWhile_imp hc
    · exact fun c hc ↦ List.mem_takeWhile_imp (List.mem_reverse.mp hc)
  · rintro ⟨front, back, rfl, hfront, hback⟩
    rw [List.dropWhile_append_of_pos hfront]
    cases core with
    | nil =>
      apply List.rdropWhile_eq_nil_iff.mpr
      exact fun c hc ↦ hback c ((List.dropWhile_sublist p).mem hc)
    | cons c rest =>
      rw [List.cons_append, List.dropWhile_cons_of_neg (Bool.eq_false_iff.mp (hhead c rfl))]
      exact dropEndWhile_append_of_forall hlast hback

/-- What is left of a text starts with a character that stays. -/
theorem head?_dropEndWhile_dropWhile (p q : Char → Bool) (cs : List Char) :
    ∀ c ∈ (dropEndWhile q (cs.dropWhile p)).head?, p c = false := by
  intro c hc
  obtain ⟨rest, hrest⟩ : dropEndWhile q (cs.dropWhile p) <+: cs.dropWhile p :=
    List.rdropWhile_prefix q _
  have hhead : (cs.dropWhile p).head? = some c := by
    rw [← hrest, List.head?_append, hc]
    rfl
  have hnot := List.head?_dropWhile_not p cs
  rwa [hhead] at hnot

/-- What is left of a text ends with a character that stays. -/
theorem getLast?_dropEndWhile (q : Char → Bool) (cs : List Char) :
    ∀ c ∈ (dropEndWhile q cs).getLast?, q c = false := by
  intro c hc
  change c ∈ (cs.rdropWhile q).getLast? at hc
  obtain ⟨hne, hlast⟩ := List.mem_getLast?_eq_getLast hc
  rw [hlast]
  exact Bool.eq_false_iff.mpr (List.rdropWhile_last_not q cs hne)

end

/-! ### White space -/

/-- Neither end of the text is white space. -/
structure Trimmed (cs : List Char) : Prop where
  head : ∀ c ∈ cs.head?, isBlank c = false
  last : ∀ c ∈ cs.getLast?, isBlank c = false

/-- What is left of a text ends where it did or is cut off after a character that stays. -/
theorem isBlank_of_mem_getLast?_trimEnd {c : Char} (h : c ∈ (trimEnd cs).getLast?) :
    isBlank c = false := getLast?_dropEndWhile isBlank cs c h

/-- Trimming the end leaves a text as it is exactly when it does not end in white space. -/
theorem trimEnd_eq_self_iff : trimEnd cs = cs ↔ ∀ c ∈ cs.getLast?, isBlank c = false := by
  constructor
  · intro h c hc
    rw [← h] at hc
    exact isBlank_of_mem_getLast?_trimEnd hc
  · intro h
    change cs.rdropWhile isBlank = cs
    rw [List.rdropWhile_eq_self_iff]
    intro hne
    exact Bool.eq_false_iff.mp (h _ (List.getLast_mem_getLast? hne))

/-- Trimming the start leaves a text as it is if that does not start with white space. -/
theorem trimStart_eq_self (h : ∀ c ∈ cs.head?, isBlank c = false) : trimStart cs = cs := by
  cases cs with
  | nil => rfl
  | cons c rest => exact List.dropWhile_cons_of_neg (Bool.eq_false_iff.mp (h c rfl))

/-- A trimmed text results from trimming. -/
theorem trimmed_trim (cs : List Char) : Trimmed (trim cs) where
  head := head?_dropEndWhile_dropWhile isBlank isBlank cs
  last := fun _ hc ↦ isBlank_of_mem_getLast?_trimEnd hc

/-- Trimming leaves a text as it is exactly when it is trimmed. -/
theorem trim_eq_self_iff : trim cs = cs ↔ Trimmed cs := by
  constructor
  · intro h
    exact h ▸ trimmed_trim cs
  · intro h
    rw [trim, trimStart_eq_self h.head, trimEnd_eq_self_iff]
    exact h.last

/-- A trimmed text has no white space to skip. -/
theorem Trimmed.takeWhile_isBlank (h : Trimmed cs) : cs.takeWhile isBlank = [] := by
  cases cs with
  | nil => rfl
  | cons c rest => exact List.takeWhile_cons_of_neg (Bool.eq_false_iff.mp (h.head c rfl))

/-- Trimming only takes characters away. -/
theorem mem_of_mem_trim {c : Char} (h : c ∈ trim cs) : c ∈ cs :=
  ((List.rdropWhile_prefix isBlank _).sublist.trans (List.dropWhile_sublist isBlank)).mem h

/-- A text may follow a trimmed one if it does not end in white space. -/
theorem Trimmed.append {front text : List Char} (hfront : Trimmed front) (hne : front ≠ [])
    (htext : ∀ c ∈ text.getLast?, isBlank c = false) : Trimmed (front ++ text) where
  head := by
    intro c hc
    rw [List.head?_append_of_ne_nil _ hne] at hc
    exact hfront.head c hc
  last := by
    intro c hc
    rw [List.getLast?_append] at hc
    cases text with
    | nil => exact hfront.last c hc
    | cons _ _ => exact htext c (by simpa using hc)

/-! ### Pieces -/

section

variable {separator : Char}

/-- Joining puts the separator between two pieces. -/
theorem joinBy_eq_intercalate (separator : Char) (parts : List (List Char)) :
    joinBy separator parts = [separator].intercalate parts := by
  induction parts with
  | nil => rfl
  | cons part rest ih =>
    cases rest with
    | nil => exact List.intercalate_singleton.symm
    | cons next later =>
      rw [List.intercalate_cons_cons, ← ih, List.append_assoc]
      rfl

/-- What stands on either side of a separator is cut by itself. -/
theorem piecesAt_append_cons (separator : Char) (front back : List Char) :
    piecesAt separator (front ++ separator :: back) =
      piecesAt separator front ++ piecesAt separator back := by
  induction front with
  | nil => simp only [List.nil_append, piecesAt, if_true, List.singleton_append]
  | cons c cs ih =>
    simp only [List.cons_append, piecesAt, ih]
    split
    · rfl
    · cases hpieces : piecesAt separator cs with
      | nil => exact absurd hpieces (piecesAt_ne_nil separator cs)
      | cons first later => rfl

/-- Without a separator there is one piece. -/
theorem piecesAt_of_not_mem (h : separator ∉ cs) : piecesAt separator cs = [cs] := by
  induction cs with
  | nil => rfl
  | cons c cs ih =>
    rw [List.mem_cons, not_or] at h
    have hne : c ≠ separator := fun hc ↦ h.1 hc.symm
    rw [piecesAt, if_neg hne, ih h.2]
    rfl

/-- Joined pieces are cut where they were joined. -/
theorem piecesAt_joinBy {parts : List (List Char)} (hne : parts ≠ [])
    (h : ∀ part ∈ parts, separator ∉ part) :
    piecesAt separator (joinBy separator parts) = parts := by
  induction parts with
  | nil => exact absurd rfl hne
  | cons part rest ih =>
    have hpart := piecesAt_of_not_mem (h part List.mem_cons_self)
    cases rest with
    | nil => exact hpart
    | cons next later =>
      have hlater : ∀ other ∈ next :: later, separator ∉ other := fun other hother ↦
        h other (List.mem_cons_of_mem part hother)
      rw [joinBy, piecesAt_append_cons, hpart, ih (List.cons_ne_nil next later) hlater]
      · rfl
      · exact List.cons_ne_nil next later

end

/-- Joining puts a line feed between two lines. -/
theorem joinLines_eq_intercalate (lines : List (List Char)) :
    joinLines lines = ['\n'].intercalate lines := joinBy_eq_intercalate '\n' lines

/-- What stands on either side of a line feed is cut by itself. -/
theorem pieces_append_lineFeed (front back : List Char) :
    pieces (front ++ '\n' :: back) = pieces front ++ pieces back :=
  piecesAt_append_cons '\n' front back

/-- Without a line feed there is one piece. -/
theorem pieces_of_not_mem (h : '\n' ∉ cs) : pieces cs = [cs] := piecesAt_of_not_mem h

/-- A piece ends at the first line feed. -/
theorem pieces_append {line : List Char} (h : '\n' ∉ line) (rest : List Char) :
    pieces (line ++ '\n' :: rest) = line :: pieces rest := by
  rw [pieces_append_lineFeed, pieces_of_not_mem h, List.singleton_append]

/-- Joined lines are cut where they were joined. -/
theorem pieces_joinLines {lines : List (List Char)} (hne : lines ≠ [])
    (h : ∀ line ∈ lines, '\n' ∉ line) : pieces (joinLines lines) = lines := piecesAt_joinBy hne h

/-- No piece holds a line feed. -/
theorem not_mem_of_mem_pieces {piece : List Char} (h : piece ∈ pieces cs) : '\n' ∉ piece := by
  induction cs generalizing piece with
  | nil =>
    rw [List.mem_singleton.mp h]
    exact List.not_mem_nil
  | cons c cs ih =>
    rw [pieces, piecesAt] at h
    split at h
    next =>
      obtain rfl | hrest := List.mem_cons.mp h
      · exact List.not_mem_nil
      · exact ih hrest
    next hc =>
      cases hpieces : piecesAt '\n' cs with
      | nil => exact absurd hpieces (piecesAt_ne_nil '\n' cs)
      | cons first later =>
        rw [pieces, hpieces] at ih
        rw [hpieces, List.modifyHead_cons] at h
        obtain rfl | hlater := List.mem_cons.mp h
        · rw [List.mem_cons, not_or]
          exact ⟨fun heq ↦ hc heq.symm, ih List.mem_cons_self⟩
        · exact ih (List.mem_cons_of_mem _ hlater)

end Colloquy.Text
