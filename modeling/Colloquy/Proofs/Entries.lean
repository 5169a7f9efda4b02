import Colloquy.Toml.Document
import Mathlib.Data.List.Nodup
import Mathlib.Data.List.Perm.Basic

/-!
# Entries with distinct keys

A table that has no key twice is the same table in any order of its entries: what it says of a key
depends on which entries it has, not on where they stand. Documents are such tables. Every line of a
document adds a key that the table it goes into does not have yet, or changes what is under a key
that is there.
-/

namespace Colloquy.Toml

namespace Entries

variable {entries other after : Entries} {key : String} {value : Value}

/-- No key is given twice. -/
def HasDistinctKeys (entries : Entries) : Prop := (entries.map Prod.fst).Nodup

/-- The first entry is asked first. -/
theorem get?_cons (key : String) (value : Value) (rest : Entries) (asked : String) :
    get? ((key, value) :: rest) asked = if key = asked then some value else rest.get? asked := by
  by_cases h : key = asked <;> simp [get?, h]

/-- A key has no value if no entry has the key. -/
theorem get?_eq_none_iff : entries.get? key = none ↔ key ∉ entries.map Prod.fst := by
  simp only [get?, Option.map_eq_none_iff, List.find?_eq_none, decide_eq_true_eq, List.mem_map,
    not_exists, not_and]

/-- Distinct keys have the values that the entries give them. -/
theorem HasDistinctKeys.get?_eq_some_iff (h : entries.HasDistinctKeys) :
    entries.get? key = some value ↔ (key, value) ∈ entries := by
  induction entries with
  | nil => simp [get?]
  | cons entry rest ih =>
    obtain ⟨first, given⟩ := entry
    obtain ⟨hnew, hrest⟩ := List.nodup_cons.mp h
    rw [get?_cons, List.mem_cons]
    split
    next heq =>
      subst heq
      have hnot : (first, value) ∉ rest := fun hmem ↦
        hnew (List.mem_map.mpr ⟨(first, value), hmem, rfl⟩)
      simp [hnot, eq_comm]
    next hne =>
      have hnot : (key, value) ≠ (first, given) := fun heq ↦ hne (congrArg Prod.fst heq).symm
      rw [ih hrest, or_iff_right hnot]

/-- Another order of the entries has distinct keys too. -/
theorem HasDistinctKeys.perm (h : entries.HasDistinctKeys) (hperm : other.Perm entries) :
    other.HasDistinctKeys :=
  (hperm.map Prod.fst).nodup_iff.mpr h

/-- Tables that have the same entries for a key, in whatever order, give it the same value. -/
theorem HasDistinctKeys.get?_congr (h : entries.HasDistinctKeys) (hother : other.HasDistinctKeys)
    (hmem : ∀ value, (key, value) ∈ other ↔ (key, value) ∈ entries) :
    other.get? key = entries.get? key := by
  apply Option.ext
  intro value
  rw [hother.get?_eq_some_iff, h.get?_eq_some_iff, hmem]

/-! ### Keys of a table that is being built -/

/-- A new key is added to distinct ones. -/
theorem HasDistinctKeys.append (h : entries.HasDistinctKeys) (hnone : entries.get? key = none)
    (value : Value) : HasDistinctKeys (entries ++ [(key, value)]) := by
  rw [HasDistinctKeys, List.map_append]
  exact List.nodup_append_comm.mp (List.nodup_cons.mpr ⟨get?_eq_none_iff.mp hnone, h⟩)

/-- Keys stay distinct when one is removed, and that one is gone. -/
theorem HasDistinctKeys.erase (h : entries.HasDistinctKeys) (key : String) :
    (entries.erase key).HasDistinctKeys ∧ (entries.erase key).get? key = none := by
  constructor
  · exact List.Nodup.sublist (List.filter_sublist.map Prod.fst) h
  · simp [get?_eq_none_iff, Entries.erase]

/-- A value is put under a key that is there, or the key is new. -/
theorem HasDistinctKeys.put (h : entries.HasDistinctKeys) (key : String) (value : Value) :
    (entries.put key value).HasDistinctKeys := by
  unfold Entries.put
  split
  next =>
    have hkeys : (entries.map fun entry ↦ if entry.1 = key then (key, value) else entry).map
        Prod.fst = entries.map Prod.fst := by
      rw [List.map_map]
      apply List.map_congr_left
      intro entry _
      simp only [Function.comp_apply]
      split
      next heq => exact heq.symm
      next => rfl
    rw [HasDistinctKeys, hkeys]
    exact h
  next hnone =>
    apply h.append
    rw [get?_eq_none_iff]
    simpa using hnone

/-- A change that keeps keys distinct does so wherever a path leads it: above its place it only
changes what is under one key. -/
theorem HasDistinctKeys.changeAt {made : Origin} {change : Origin → Entries → Option Entries}
    (hchange : ∀ origin (inner after : Entries), inner.HasDistinctKeys →
      change origin inner = some after → after.HasDistinctKeys)
    {path : List String} {origin : Origin} (h : entries.HasDistinctKeys)
    (hafter : Entries.changeAt made change path origin entries = some after) :
    after.HasDistinctKeys := by
  cases path with
  | nil => exact hchange origin entries after h hafter
  | cons key path =>
    have hput : ∀ {inner : Option Entries} {wrap : Entries → Value},
        (do return entries.put key (wrap (← inner))) = some after → after.HasDistinctKeys := by
      intro inner wrap hsome
      obtain ⟨_, -, heq⟩ := Option.bind_eq_some_iff.mp hsome
      cases heq
      exact h.put key _
    unfold Entries.changeAt at hafter
    split at hafter
    · exact hput hafter
    · split at hafter
      · cases hafter
      · exact hput hafter
    · split at hafter
      · exact hput hafter
      · cases hafter
    · cases hafter

/-- A dotted key is new where it is added. -/
theorem HasDistinctKeys.addDotted {origin : Origin} {path : List String}
    (h : entries.HasDistinctKeys)
    (hafter : Entries.addDotted entries origin path key value = some after) :
    after.HasDistinctKeys := by
  refine h.changeAt ?_ hafter
  intro origin inner after hinner hchange
  split at hchange
  next => cases hchange
  next hnew =>
    cases hchange
    exact hinner.append (by simpa using (not_or.mp hnew).2) value

/-- The table of a header is new, or takes the place of one that was implied. -/
theorem HasDistinctKeys.openTable {path : List String} (h : entries.HasDistinctKeys)
    (hafter : Entries.openTable entries path key = some after) : after.HasDistinctKeys := by
  refine h.changeAt ?_ hafter
  intro origin inner after hinner hchange
  split at hchange
  next hnone =>
    cases hchange
    exact hinner.append hnone _
  next =>
    cases hchange
    exact (hinner.erase key).1.append (hinner.erase key).2 _
  next => cases hchange

/-- An array of tables is new or grows. -/
theorem HasDistinctKeys.appendTable {path : List String} (h : entries.HasDistinctKeys)
    (hafter : Entries.appendTable entries path key = some after) : after.HasDistinctKeys := by
  refine h.changeAt ?_ hafter
  intro origin inner after hinner hchange
  split at hchange
  next hnone =>
    cases hchange
    exact hinner.append hnone _
  next =>
    cases hchange
    exact hinner.put key _
  next => cases hchange

end Entries

/-- A line keeps the keys of the document distinct. -/
theorem Progress.hasDistinctKeys_add {progress after : Progress} {line : Statement}
    (h : progress.entries.HasDistinctKeys) (hafter : progress.add line = some after) :
    after.entries.HasDistinctKeys := by
  cases line with
  | empty =>
    cases hafter
    exact h
  | entry path name value =>
    obtain ⟨entries, hentries, heq⟩ := Option.bind_eq_some_iff.mp hafter
    cases heq
    exact h.changeAt (fun _ _ _ hinner hadd ↦ hinner.addDotted hadd) hentries
  | header path name =>
    obtain ⟨entries, hentries, heq⟩ := Option.bind_eq_some_iff.mp hafter
    cases heq
    exact h.openTable hentries
  | arrayHeader path name =>
    obtain ⟨entries, hentries, heq⟩ := Option.bind_eq_some_iff.mp hafter
    cases heq
    exact h.appendTable hentries

/-- So do all lines. -/
theorem Progress.hasDistinctKeys_foldlM {lines : List Statement} {progress after : Progress}
    (h : progress.entries.HasDistinctKeys)
    (hafter : lines.foldlM Progress.add progress = some after) :
    after.entries.HasDistinctKeys := by
  induction lines generalizing progress with
  | nil =>
    cases hafter
    exact h
  | cons line rest ih =>
    rw [List.foldlM_cons] at hafter
    obtain ⟨next, hnext, hrest⟩ := Option.bind_eq_some_iff.mp hafter
    exact ih (hasDistinctKeys_add h hnext) hrest

/-- No key of a document is given twice. -/
theorem hasDistinctKeys_parse {text : String} {entries : Entries}
    (h : parse text = some entries) : entries.HasDistinctKeys := by
  obtain ⟨lines, -, hlines⟩ := Option.bind_eq_some_iff.mp h
  obtain ⟨final, hfinal, heq⟩ := Option.bind_eq_some_iff.mp hlines
  cases heq
  refine Progress.hasDistinctKeys_foldlM ?_ hfinal
  exact List.nodup_nil

end Colloquy.Toml
