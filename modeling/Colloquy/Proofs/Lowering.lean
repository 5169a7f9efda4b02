import Colloquy.Proofs.Trimming
import Colloquy.Text.Lowercase

/-!
# Lower case of lower case

The lower-case form of a text is its own lower-case form: no run of capital letters holds a letter
that some run has for its lower case. Nor is such a letter white space, so a trimmed line stays a
trimmed line.
-/

namespace Colloquy.Text

/-! ### Tables -/

/-- The last lower-case letter of a run. -/
def CaseRun.lastTarget (run : CaseRun) : Nat := run.target + (run.last - run.first)

/-- No lower-case letter of the run is a capital of the other run, which is told from the ends of
both and, where capitals and lower-case letters take turns, from the parity of their distance. -/
def CaseRun.isApartFrom (run other : CaseRun) : Bool :=
  run.lastTarget.blt other.first || other.last.blt run.target ||
    (other.step == 2 && other.first.blt run.target && (run.target - other.first) % 2 == 1 &&
      (run.step == 2 || run.first == run.last))

/-- The lower-case letters of the run are characters, none of them white space and none of them the
capital I with a dot. -/
def CaseRun.isPlain (run : CaseRun) : Bool :=
  (blankRanges.all fun range ↦ run.lastTarget.blt range.1 || range.2.blt run.target) &&
    (run.lastTarget.blt 0x130 || Nat.blt 0x130 run.target) &&
    (run.lastTarget.blt 0xD800 || (Nat.blt 0xDFFF run.target && run.lastTarget.blt 0x110000))

/-- Every run is apart from every run. -/
theorem isApartFrom_of_mem_caseRuns :
    ∀ run ∈ caseRuns, ∀ other ∈ caseRuns, run.isApartFrom other = true := by
  have key : (caseRuns.all fun run ↦ caseRuns.all run.isApartFrom) = true := by decide +kernel
  intro run hrun other hother
  exact List.all_eq_true.mp (List.all_eq_true.mp key run hrun) other hother

/-- Every run is plain. -/
theorem isPlain_of_mem_caseRuns : ∀ run ∈ caseRuns, run.isPlain = true := by
  have key : caseRuns.all CaseRun.isPlain = true := by decide +kernel
  exact List.all_eq_true.mp key

/-- The lower-case letters of a run lie between its first and its last. -/
theorem CaseRun.bounds_of_lower? {run : CaseRun} {code lower : Nat}
    (h : run.lower? code = some lower) :
    run.first ≤ code ∧ code ≤ run.last ∧ (code - run.first) % run.step = 0 ∧
      lower = run.target + (code - run.first) := by
  unfold lower? at h
  split at h
  next hcode => exact ⟨hcode.1, hcode.2.1, hcode.2.2, (Option.some.inj h).symm⟩
  next => cases h

/-- A lower-case letter of a run that is apart from another is no capital of that. -/
theorem CaseRun.lower?_eq_none {run other : CaseRun} (h : run.isApartFrom other = true)
    {code lower : Nat} (hlower : run.lower? code = some lower) : other.lower? lower = none := by
  obtain ⟨hfirst, hlast, hstep, rfl⟩ := bounds_of_lower? hlower
  rw [lower?, if_neg]
  rintro ⟨hge, hle, hother⟩
  simp only [isApartFrom, lastTarget, Bool.or_eq_true, Bool.and_eq_true, Nat.blt_eq,
    beq_iff_eq] at h
  rcases h with (h | h) | ⟨⟨⟨htwo, hlt⟩, hodd⟩, h | h⟩
  · omega
  · omega
  · rw [htwo] at hother
    rw [h] at hstep
    omega
  · rw [htwo] at hother
    omega

/-! ### Characters -/

/-- The character is its own lower-case form, wherever it stands. -/
def IsLowered (c : Char) : Prop := c ≠ 'Σ' ∧ lowerChar c = [c]

/-- But for the capital I with a dot, a character is its own lower-case form, when no run holds it,
or has the letter that a run has for it. -/
theorem lowerChar_cases {c : Char} (h : c ≠ '\u0130') :
    lowerChar c = [c] ∨ ∃ run ∈ caseRuns, ∃ o, lowerChar c = [o] ∧
      run.lower? c.toNat = some o.toNat := by
  cases hfound : caseRuns.findSome? (·.lower? c.toNat) with
  | none =>
    left
    rw [lowerChar, if_neg h, hfound]
  | some code =>
    obtain ⟨run, hrun, hlower⟩ := List.exists_of_findSome?_eq_some hfound
    obtain ⟨-, hlast, -, hcode⟩ := CaseRun.bounds_of_lower? hlower
    have hplain := isPlain_of_mem_caseRuns run hrun
    simp only [CaseRun.isPlain, CaseRun.lastTarget, Bool.and_eq_true, Bool.or_eq_true,
      Nat.blt_eq] at hplain
    have hvalid : code.isValidChar := by
      rcases hplain.2 with hlow | hhigh
      · exact .inl (by omega)
      · exact .inr ⟨by omega, by omega⟩
    refine .inr ⟨run, hrun, Char.ofNat code, ?_, ?_⟩
    · rw [lowerChar, if_neg h, hfound]
    · rw [hlower, Char.ofNat, dif_pos hvalid]
      rfl

/-- What the lower-case form of a character is made of: the character itself, when no run holds it,
the two characters of the capital I with a dot, or the letter that a run has for it. -/
theorem cases_of_mem_lowerChar {c o : Char} (h : o ∈ lowerChar c) :
    (o = c ∧ lowerChar c = [c]) ∨ o = 'i' ∨ o = '\u0307' ∨
      ∃ run ∈ caseRuns, run.lower? c.toNat = some o.toNat := by
  by_cases hdotted : c = '\u0130'
  · rw [lowerChar, if_pos hdotted] at h
    simp only [List.mem_cons, List.not_mem_nil, or_false] at h
    exact .inr (h.imp_right .inl)
  · obtain hkept | ⟨run, hrun, lower, hlower, hcode⟩ := lowerChar_cases hdotted
    · rw [hkept] at h
      exact .inl ⟨List.mem_singleton.mp h, hkept⟩
    · rw [hlower] at h
      rw [List.mem_singleton.mp h]
      exact .inr (.inr (.inr ⟨run, hrun, hcode⟩))

/-- The letter that a run has for a capital is its own lower-case form. -/
theorem isLowered_of_lower? {run : CaseRun} (hrun : run ∈ caseRuns) {code : Nat} {o : Char}
    (h : run.lower? code = some o.toNat) : IsLowered o ∧ isBlank o = false := by
  obtain ⟨hfirst, hlast, -, hcode⟩ := CaseRun.bounds_of_lower? h
  have hnone : ∀ other ∈ caseRuns, other.lower? o.toNat = none := fun other hother ↦
    CaseRun.lower?_eq_none (isApartFrom_of_mem_caseRuns run hrun other hother) h
  have hplain := isPlain_of_mem_caseRuns run hrun
  simp only [CaseRun.isPlain, CaseRun.lastTarget, Bool.and_eq_true, Bool.or_eq_true,
    Nat.blt_eq, List.all_eq_true] at hplain
  obtain ⟨⟨hblank, hdotted⟩, -⟩ := hplain
  refine ⟨⟨?_, ?_⟩, ?_⟩
  · rintro rfl
    have hsigma : ∃ other ∈ caseRuns, other.lower? 'Σ'.toNat ≠ none := by decide +kernel
    obtain ⟨other, hother, hne⟩ := hsigma
    exact hne (hnone other hother)
  · have hne : o ≠ '\u0130' := by
      rintro rfl
      have : '\u0130'.toNat = 0x130 := rfl
      omega
    rw [lowerChar, if_neg hne, List.findSome?_eq_none_iff.mpr hnone]
  · rw [Bool.eq_false_iff]
    intro ho
    obtain ⟨range, hrange, hge, hle⟩ := RangeTable.contains_iff.mp ho
    rcases hblank range hrange with h | h
    · omega
    · omega

/-! ### Texts -/

/-- The lower-case form of a character that has `before` before it and `after` behind it. -/
def lowerBetween (before : List Char) (c : Char) (after : List Char) : List Char :=
  if c = 'Σ' then [if meetsCased before && !meetsCased after then 'ς' else 'σ'] else lowerChar c

theorem lowercaseAfter_cons (before : List Char) (c : Char) (cs : List Char) :
    lowercaseAfter before (c :: cs) = lowerBetween before c cs ++ lowercaseAfter (c :: before) cs :=
  rfl

/-- A character has some lower-case form. -/
theorem lowerBetween_ne_nil (before : List Char) (c : Char) (after : List Char) :
    lowerBetween before c after ≠ [] := by
  unfold lowerBetween lowerChar
  split
  · exact List.cons_ne_nil _ _
  · split
    · exact List.cons_ne_nil _ _
    · split <;> exact List.cons_ne_nil _ _

/-- The lower-case form of a character is made of characters that stay, and a new one is no white
space. -/
theorem isLowered_of_mem_lowerBetween {before after : List Char} {c o : Char}
    (h : o ∈ lowerBetween before c after) : IsLowered o ∧ (o = c ∨ isBlank o = false) := by
  have key : (['ς', 'σ', 'i', '\u0307'].all fun o ↦
      o != 'Σ' && lowerChar o == [o] && !isBlank o) = true := by
    decide +kernel
  have hnew : ∀ o ∈ ['ς', 'σ', 'i', '\u0307'], IsLowered o ∧ isBlank o = false := by
    intro o ho
    have hkey := List.all_eq_true.mp key o ho
    simp only [Bool.and_eq_true, bne_iff_ne, beq_iff_eq, Bool.not_eq_true'] at hkey
    exact hkey
  unfold lowerBetween at h
  by_cases hc : c = 'Σ'
  · rw [if_pos hc] at h
    have hsigma : o ∈ ['ς', 'σ', 'i', '\u0307'] := by
      rw [List.mem_singleton.mp h]
      split <;> decide
    exact (hnew o hsigma).imp_right .inr
  · rw [if_neg hc] at h
    rcases cases_of_mem_lowerChar h with ⟨rfl, hkept⟩ | rfl | rfl | ⟨run, hrun, hlower⟩
    · exact ⟨⟨hc, hkept⟩, .inl rfl⟩
    · exact (hnew _ (by decide)).imp_right .inr
    · exact (hnew _ (by decide)).imp_right .inr
    · exact (isLowered_of_lower? hrun hlower).imp_right .inr

/-- So is the lower-case form of a text. -/
theorem isLowered_of_mem_lowercaseAfter {before cs : List Char} {o : Char}
    (h : o ∈ lowercaseAfter before cs) : IsLowered o ∧ (o ∈ cs ∨ isBlank o = false) := by
  induction cs generalizing before with
  | nil => cases h
  | cons c cs ih =>
    rw [lowercaseAfter_cons, List.mem_append] at h
    rcases h with hfirst | hlater
    · have hhead : o = c → o ∈ c :: cs := fun heq ↦ heq ▸ List.mem_cons_self
      exact (isLowered_of_mem_lowerBetween hfirst).imp_right (.imp_left hhead)
    · exact (ih hlater).imp_right (.imp_left (List.mem_cons_of_mem c))

/-- Characters that stay make up a text that stays. -/
theorem lowercaseAfter_eq_self {before cs : List Char} (h : ∀ c ∈ cs, IsLowered c) :
    lowercaseAfter before cs = cs := by
  induction cs generalizing before with
  | nil => rfl
  | cons c cs ih =>
    obtain ⟨hsigma, hlower⟩ := h c List.mem_cons_self
    rw [lowercaseAfter_cons, lowerBetween, if_neg hsigma, hlower,
      ih fun other hother ↦ h other (List.mem_cons_of_mem c hother)]
    rfl

/-- The lower-case form of a text is its own lower-case form. -/
theorem lowercase_lowercase (cs : List Char) : lowercase (lowercase cs) = lowercase cs :=
  lowercaseAfter_eq_self fun _ ho ↦ (isLowered_of_mem_lowercaseAfter ho).1

/-- Lower case brings in no line feed. -/
theorem not_mem_lowercase {cs : List Char} (h : '\n' ∉ cs) : '\n' ∉ lowercase cs := by
  intro hmem
  rcases (isLowered_of_mem_lowercaseAfter hmem).2 with hcs | hblank
  · exact h hcs
  · exact absurd hblank (by decide)

/-- The last character of a lower-case form comes from the last one of the text. -/
theorem isBlank_of_mem_getLast?_lowercaseAfter {before cs : List Char}
    (h : ∀ c ∈ cs.getLast?, isBlank c = false) {o : Char}
    (ho : o ∈ (lowercaseAfter before cs).getLast?) : isBlank o = false := by
  induction cs generalizing before with
  | nil => cases ho
  | cons c cs ih =>
    rw [lowercaseAfter_cons, List.getLast?_append] at ho
    cases cs with
    | nil =>
      rcases (isLowered_of_mem_lowerBetween (List.mem_of_mem_getLast? ho)).2 with rfl | hblank
      · exact h _ rfl
      · exact hblank
    | cons next later =>
      have hne : lowercaseAfter (c :: before) (next :: later) ≠ [] := by
        rw [lowercaseAfter_cons]
        exact List.append_ne_nil_of_left_ne_nil (lowerBetween_ne_nil _ _ _) _
      apply ih h
      rw [List.getLast?_eq_some_getLast hne] at ho ⊢
      exact ho

/-- The lower-case form of a trimmed text is trimmed. -/
theorem Trimmed.lowercase {cs : List Char} (h : Trimmed cs) : Trimmed (lowercase cs) where
  head := by
    intro o ho
    cases cs with
    | nil => cases ho
    | cons c cs =>
      rw [Text.lowercase, lowercaseAfter_cons,
        List.head?_append_of_ne_nil _ (lowerBetween_ne_nil _ _ _)] at ho
      rcases (isLowered_of_mem_lowerBetween (List.mem_of_mem_head? ho)).2 with rfl | hblank
      · exact h.head _ rfl
      · exact hblank
  last := fun _ ho ↦ isBlank_of_mem_getLast?_lowercaseAfter h.last ho

/-! ### ASCII letters -/

/-- The texts are the same but for the case of their ASCII letters. -/
def SameLetters (cs word : List Char) : Prop := cs.map Char.toLower = word.map Char.toLower

instance (cs word : List Char) : Decidable (SameLetters cs word) :=
  inferInstanceAs (Decidable (cs.map Char.toLower = word.map Char.toLower))

/-- ASCII has a lower case for its own characters only. -/
theorem toNat_toLower_lt_iff {c : Char} : c.toLower.toNat < 128 ↔ c.toNat < 128 := by
  have key : ∀ n : Fin 128, (Char.ofNat n).toLower.toNat < 128 := by decide
  constructor
  · intro h
    by_contra hge
    have hkept : c.toLower = c := by
      apply dif_neg
      rintro ⟨-, hle⟩
      have hle' : c.toNat ≤ 90 := hle
      omega
    rw [hkept] at h
    exact hge h
  · intro h
    simpa using key ⟨c.toNat, h⟩

/-- ASCII text is lowered letter by letter. -/
theorem lowercaseAfter_of_ascii {before cs : List Char} (h : ∀ c ∈ cs, c.toNat < 128) :
    lowercaseAfter before cs = cs.map Char.toLower := by
  induction cs generalizing before with
  | nil => rfl
  | cons c cs ih =>
    obtain ⟨hc, hcs⟩ := List.forall_mem_cons.mp h
    have hsigma : c ≠ 'Σ' := by
      rintro rfl
      exact absurd hc (by decide)
    rw [lowercaseAfter_cons, lowerBetween, if_neg hsigma, lowerChar_of_lt hc, ih hcs]
    rfl

/-- The run has ASCII letters for ASCII capitals only, but for the Kelvin sign, which has a k. -/
def CaseRun.keepsForeign (run : CaseRun) : Bool :=
  run.last.blt 128 || Nat.ble 128 run.target || (run.target == 'k'.toNat && run.first == run.last)

/-- The lower-case form of a character beyond ASCII is not made of ASCII letters other than k. -/
theorem exists_foreign_mem_lowerBetween {before after : List Char} {c : Char} (h : 128 ≤ c.toNat) :
    ∃ o ∈ lowerBetween before c after, 128 ≤ o.toNat ∨ o = 'k' := by
  have key : caseRuns.all CaseRun.keepsForeign = true := by decide +kernel
  unfold lowerBetween
  split
  · refine ⟨_, List.mem_singleton_self _, .inl ?_⟩
    split <;> decide
  · by_cases hdotted : c = '\u0130'
    · subst hdotted
      exact ⟨'\u0307', by decide +kernel, by decide⟩
    · obtain hkept | ⟨run, hrun, o, hlower, hcode⟩ := lowerChar_cases hdotted
      · rw [hkept]
        exact ⟨c, List.mem_singleton_self c, .inl h⟩
      · obtain ⟨hfirst, hlast, -, htarget⟩ := CaseRun.bounds_of_lower? hcode
        have hforeign := List.all_eq_true.mp key run hrun
        simp only [CaseRun.keepsForeign, Bool.or_eq_true, Bool.and_eq_true, Nat.blt_eq,
          Nat.ble_eq, beq_iff_eq] at hforeign
        rw [hlower]
        refine ⟨o, List.mem_singleton_self o, ?_⟩
        rcases hforeign with (hascii | hbeyond) | ⟨hk, hsingle⟩
        · omega
        · exact .inl (by omega)
        · refine .inr (Char.toNat_inj.mp ?_)
          omega

/-- So is the lower-case form of a text with such a character. -/
theorem exists_foreign_mem_lowercaseAfter {before cs : List Char} {c : Char} (hc : c ∈ cs)
    (h : 128 ≤ c.toNat) : ∃ o ∈ lowercaseAfter before cs, 128 ≤ o.toNat ∨ o = 'k' := by
  induction cs generalizing before with
  | nil => cases hc
  | cons first rest ih =>
    rw [lowercaseAfter_cons]
    obtain rfl | hrest := List.mem_cons.mp hc
    · have hfirst : ∃ o ∈ lowerBetween before c rest, 128 ≤ o.toNat ∨ o = 'k' :=
        exists_foreign_mem_lowerBetween h
      obtain ⟨o, ho, hforeign⟩ := hfirst
      exact ⟨o, List.mem_append_left _ ho, hforeign⟩
    · obtain ⟨o, ho, hforeign⟩ := ih hrest
      exact ⟨o, List.mem_append_right _ ho, hforeign⟩

/-- The word is written in small ASCII letters, none of them a k. -/
def IsPlainWord (word : List Char) : Prop :=
  ∀ c ∈ word, c.toNat < 128 ∧ c.toLower = c ∧ c ≠ 'k'

instance (word : List Char) : Decidable (IsPlainWord word) :=
  List.decidableBAll _ word

/-- The texts with a plain word for their lower-case form are the spellings of that word in ASCII
letters. The Kelvin sign is why the word must not have a k. -/
theorem lowercase_eq_iff {cs word : List Char} (hword : IsPlainWord word) :
    lowercase cs = word ↔ SameLetters cs word := by
  have hsmall : word.map Char.toLower = word :=
    (List.map_congr_left fun c hc ↦ (hword c hc).2.1).trans (List.map_id word)
  rw [SameLetters, hsmall]
  constructor
  · intro h
    have hascii : ∀ c ∈ cs, c.toNat < 128 := by
      intro c hc
      by_contra hge
      have hfound : ∃ o ∈ lowercase cs, 128 ≤ o.toNat ∨ o = 'k' :=
        exists_foreign_mem_lowercaseAfter hc (Nat.le_of_not_lt hge)
      obtain ⟨o, ho, hforeign⟩ := hfound
      have hplain := hword o (h ▸ ho)
      rcases hforeign with hbeyond | hk
      · omega
      · exact hplain.2.2 hk
    rw [← h, lowercase, lowercaseAfter_of_ascii hascii]
  · intro h
    have hascii : ∀ c ∈ cs, c.toNat < 128 := by
      intro c hc
      have hmem : c.toLower ∈ word := h ▸ List.mem_map_of_mem hc
      exact toNat_toLower_lt_iff.mp (hword _ hmem).1
    rw [lowercase, lowercaseAfter_of_ascii hascii, h]

example : lowercase ['\u212a'] = ['k'] ∧ ¬SameLetters ['\u212a'] ['k'] := by decide +kernel

end Colloquy.Text
