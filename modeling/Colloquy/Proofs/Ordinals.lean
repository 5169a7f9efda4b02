import Colloquy.Session.Registry
import Mathlib.Data.List.Nodup

/-!
# Ordinals

The list and the table of a registry are two accounts of the same titles, and nothing but `register`
keeps them in step: it adds a title to both or to neither. As long as they are, the ordinal of a
title is its place in the list, the ordinals in use are the numbers up to the size of the registry,
and a registry that has only grown at its end gives every title that was there the ordinal that it
had.
-/

namespace Colloquy.Registry

/-- The list has each of its titles once and never the empty one, and the table has the place of
each, counted from one, and nothing else. -/
structure InStep (registry : Registry) : Prop where
  nodup : registry.titles.Nodup
  ne_empty : ∀ title ∈ registry.titles, title ≠ ""
  ordinal?_eq_some_iff : ∀ title ordinal, registry.ordinal? title = some ordinal ↔
    ∃ place, registry.titles[place]? = some title ∧ ordinal = place + 1

variable {registry later : Registry} {title : String}

/-- The empty registry is in step. -/
theorem inStep_empty : empty.InStep := by
  constructor <;> simp [empty, ordinal?]

/-- The table has the titles of the list. -/
theorem InStep.isSome_ordinal?_iff (h : registry.InStep) :
    (registry.ordinal? title).isSome ↔ title ∈ registry.titles := by
  rw [Option.isSome_iff_exists, List.mem_iff_getElem?]
  constructor
  · rintro ⟨ordinal, hordinal⟩
    obtain ⟨place, hplace, -⟩ := (h.ordinal?_eq_some_iff title ordinal).mp hordinal
    exact ⟨place, hplace⟩
  · rintro ⟨place, hplace⟩
    exact ⟨place + 1, (h.ordinal?_eq_some_iff title _).mpr ⟨place, hplace, rfl⟩⟩

/-- The empty title has no ordinal. -/
theorem InStep.ordinal?_empty (h : registry.InStep) : registry.ordinal? "" = none := by
  rw [← Option.not_isSome_iff_eq_none, h.isSome_ordinal?_iff]
  exact fun hmem ↦ h.ne_empty "" hmem rfl

/-- The ordinal of a title is its place in the list, counted from one. -/
theorem InStep.ordinal?_eq (h : registry.InStep) (title : String) :
    registry.ordinal? title = (registry.titles.idxOf? title).map (· + 1) := by
  cases hplace : registry.titles.idxOf? title with
  | none =>
    rw [List.idxOf?_eq_none_iff, ← h.isSome_ordinal?_iff, Option.not_isSome_iff_eq_none] at hplace
    exact hplace
  | some place =>
    obtain ⟨hlt, htitle, -⟩ := List.idxOf?_eq_some_iff.mp hplace
    have hget : registry.titles[place]? = some title := List.getElem?_eq_some_iff.mpr ⟨hlt, htitle⟩
    exact (h.ordinal?_eq_some_iff title _).mpr ⟨place, hget, rfl⟩

/-- Two titles do not have one ordinal. -/
theorem InStep.ordinal?_inj (h : registry.InStep) {other : String} {ordinal : Nat}
    (htitle : registry.ordinal? title = some ordinal)
    (hother : registry.ordinal? other = some ordinal) : other = title := by
  obtain ⟨place, hplace, heq⟩ := (h.ordinal?_eq_some_iff title ordinal).mp htitle
  obtain ⟨place', hplace', heq'⟩ := (h.ordinal?_eq_some_iff other ordinal).mp hother
  obtain rfl : place = place' := by omega
  exact Option.some.inj (hplace'.symm.trans hplace)

/-- The ordinals in use are the numbers from one to the number of titles. -/
theorem InStep.exists_ordinal?_iff (h : registry.InStep) (ordinal : Nat) :
    (∃ title, registry.ordinal? title = some ordinal) ↔ 0 < ordinal ∧ ordinal ≤ registry.size := by
  constructor
  · rintro ⟨title, hordinal⟩
    obtain ⟨place, hplace, heq⟩ := (h.ordinal?_eq_some_iff title ordinal).mp hordinal
    have hlt : place < registry.titles.length := (List.getElem?_eq_some_iff.mp hplace).1
    rw [size]
    omega
  · rintro ⟨hpos, hle⟩
    rw [size] at hle
    have hget : registry.titles[ordinal - 1]? = some registry.titles[ordinal - 1] :=
      List.getElem?_eq_getElem (by omega)
    exact ⟨_, (h.ordinal?_eq_some_iff _ _).mpr ⟨ordinal - 1, hget, by omega⟩⟩

/-- A registry that only has more titles at its end gives a title the same ordinal. -/
theorem InStep.ordinal?_of_prefix (h : registry.InStep) (hlater : later.InStep)
    (hgrown : registry.titles <+: later.titles) (hmem : title ∈ registry.titles) :
    later.ordinal? title = registry.ordinal? title := by
  obtain ⟨place, hplace⟩ := List.mem_iff_getElem?.mp hmem
  have hthere : later.titles[place]? = some title := by
    obtain ⟨more, hmore⟩ := hgrown
    have hlt : place < registry.titles.length := (List.getElem?_eq_some_iff.mp hplace).1
    rw [← hmore, List.getElem?_append_left hlt, hplace]
  have hold := (h.ordinal?_eq_some_iff title _).mpr ⟨place, hplace, rfl⟩
  have hnew := (hlater.ordinal?_eq_some_iff title _).mpr ⟨place, hthere, rfl⟩
  rw [hold, hnew]

/-- A title of the list is not added to it again. -/
theorem InStep.titles_register (h : registry.InStep) (title : String) :
    (registry.register title).titles =
      if title = "" ∨ title ∈ registry.titles then registry.titles
      else registry.titles ++ [title] := by
  simp only [register, h.isSome_ordinal?_iff]
  split <;> rfl

/-- Only the title that is registered gets another ordinal. -/
theorem ordinal?_register (registry : Registry) (title asked : String) :
    (registry.register title).ordinal? asked =
      if asked = title ∧ title ≠ "" ∧ registry.ordinal? title = none then
        some (registry.titles.length + 1)
      else registry.ordinal? asked := by
  unfold register
  by_cases hempty : title = ""
  · simp [hempty]
  cases hold : registry.ordinal? title with
  | some ordinal => simp
  | none =>
    by_cases hasked : asked = title
    · simp [ordinal?, hasked, hempty]
    · simp [ordinal?, List.lookup_cons, hasked, hempty, beq_eq_false_iff_ne.mpr hasked]

/-- A title that is registered has the ordinal that it had before, or else the next one. The empty
title has none. -/
theorem InStep.ordinal?_register_self (h : registry.InStep) (title : String) :
    (registry.register title).ordinal? title =
      if title = "" then none else some ((registry.ordinal? title).getD (registry.size + 1)) := by
  rw [ordinal?_register]
  by_cases hempty : title = ""
  · simp [hempty, h.ordinal?_empty]
  · cases hold : registry.ordinal? title <;> simp [hempty, size]

/-- In a list that a new title is added to, it has the last place and the others have theirs. -/
theorem getElem?_append_singleton_eq_some_iff {titles : List String} (hnew : title ∉ titles)
    (asked : String) (place : Nat) :
    (titles ++ [title])[place]? = some asked ↔
      if asked = title then place = titles.length else titles[place]? = some asked := by
  by_cases hlt : place < titles.length
  · rw [List.getElem?_append_left hlt]
    split
    next hasked =>
      subst hasked
      have hne : titles[place]? ≠ some asked := fun h ↦ hnew (List.mem_of_getElem? h)
      exact iff_of_false hne (by omega)
    next => rfl
  · have hle : titles.length ≤ place := by omega
    rw [List.getElem?_append_right hle, List.getElem?_eq_none hle]
    rcases hrest : place - titles.length with _ | more
    · have hplace : place = titles.length := by omega
      by_cases hasked : asked = title <;> simp [hplace, hasked, Ne.symm, eq_comm]
    · have hplace : place ≠ titles.length := by omega
      by_cases hasked : asked = title <;> simp [hplace, hasked]

/-- Registering a title keeps the list and the table in step. -/
theorem InStep.register (h : registry.InStep) (title : String) :
    (registry.register title).InStep := by
  by_cases hold : title = "" ∨ title ∈ registry.titles
  · have hsame : registry.register title = registry := by
      rw [Registry.register, if_pos (hold.imp_right h.isSome_ordinal?_iff.mpr)]
    rwa [hsame]
  obtain ⟨hempty, hnew⟩ := not_or.mp hold
  have htitles : (registry.register title).titles = registry.titles ++ [title] := by
    rw [h.titles_register, if_neg hold]
  have hnone : registry.ordinal? title = none := by
    rw [← Option.not_isSome_iff_eq_none, h.isSome_ordinal?_iff]
    exact hnew
  constructor
  · rw [htitles]
    exact List.nodup_append_comm.mp (List.nodup_cons.mpr ⟨hnew, h.nodup⟩)
  · intro other hother
    rw [htitles, List.mem_append, List.mem_singleton] at hother
    rcases hother with hother | rfl
    · exact h.ne_empty other hother
    · exact hempty
  · intro asked ordinal
    rw [ordinal?_register, htitles]
    simp only [getElem?_append_singleton_eq_some_iff hnew]
    by_cases hasked : asked = title
    · simp [hasked, hempty, hnone, eq_comm]
    · simp [hasked, h.ordinal?_eq_some_iff]

end Colloquy.Registry
