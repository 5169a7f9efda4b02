import Colloquy.Fixture.Category
import Colloquy.Proofs.Trimming
import Mathlib.Data.List.Nodup
import Mathlib.Data.String.Basic

/-!
# Finding fixtures

`Directory.HasFile` says what files a directory holds at any depth, and where. The fixtures that are
found in a directory are exactly those of its files that are named as fixtures, each found once, and
they are sorted into categories with different names: every fixture into the one that is named by
the folders that lead to it. Names have no slashes in them, so different files have different paths.
-/

namespace Colloquy

open Text

namespace Directory

/-- A file of a directory or of one inside it: the folders that lead to it, the outermost first, its
name and its content. -/
inductive HasFile : Directory → List String → String → FileContent → Prop
  | here {name : String} {content : FileContent} {rest : Directory} :
      HasFile (.file name content rest) [] name content
  | inside {own : String} {within rest : Directory} {folders : List String} {name : String}
      {content : FileContent} :
      HasFile within folders name content →
        HasFile (.folder own within rest) (own :: folders) name content
  | besideFile {own : String} {text : FileContent} {rest : Directory} {folders : List String}
      {name : String} {content : FileContent} :
      HasFile rest folders name content → HasFile (.file own text rest) folders name content
  | besideFolder {own : String} {within rest : Directory} {folders : List String} {name : String}
      {content : FileContent} :
      HasFile rest folders name content → HasFile (.folder own within rest) folders name content

/-- The names of the entries. -/
def names : Directory → List String
  | .nil => []
  | .file name _ rest => name :: rest.names
  | .folder name _ rest => name :: rest.names

/-- What an entry can be called. -/
structure IsName (name : String) : Prop where
  ne_empty : name ≠ ""
  noSlash : '/' ∉ name.toList
  noBackslash : '\\' ∉ name.toList

instance (name : String) : Decidable (IsName name) :=
  decidable_of_iff (name ≠ "" ∧ '/' ∉ name.toList ∧ '\\' ∉ name.toList)
    ⟨fun ⟨hne, hslash, hbackslash⟩ ↦ ⟨hne, hslash, hbackslash⟩,
      fun h ↦ ⟨h.ne_empty, h.noSlash, h.noBackslash⟩⟩

/-- No two entries of a directory are called alike, at any depth. -/
def WellNamed : Directory → Prop
  | .nil => True
  | .file name _ rest => IsName name ∧ name ∉ rest.names ∧ rest.WellNamed
  | .folder name inside rest =>
    IsName name ∧ name ∉ rest.names ∧ inside.WellNamed ∧ rest.WellNamed

/-- Whether a directory is well named can be found out. -/
def decidableWellNamed : (directory : Directory) → Decidable directory.WellNamed
  | .nil => .isTrue trivial
  | .file name _ rest =>
    have := decidableWellNamed rest
    inferInstanceAs (Decidable (IsName name ∧ name ∉ rest.names ∧ rest.WellNamed))
  | .folder name inside rest =>
    have := decidableWellNamed inside
    have := decidableWellNamed rest
    inferInstanceAs
      (Decidable (IsName name ∧ name ∉ rest.names ∧ inside.WellNamed ∧ rest.WellNamed))

instance (directory : Directory) : Decidable directory.WellNamed := decidableWellNamed directory

variable {directory : Directory} {folders : List String} {name : String} {content : FileContent}

/-- The way to a file starts with an entry. -/
theorem HasFile.exists_head (h : directory.HasFile folders name content) :
    ∃ first ∈ directory.names, (folders ++ [name]).head? = some first := by
  induction h with
  | here => exact ⟨_, List.mem_cons_self, rfl⟩
  | inside _ _ => exact ⟨_, List.mem_cons_self, rfl⟩
  | besideFile _ ih | besideFolder _ ih =>
    obtain ⟨first, hmem, hhead⟩ := ih
    exact ⟨first, List.mem_cons_of_mem _ hmem, hhead⟩

/-- Whatever leads to a file has a proper name, and so has the file. -/
theorem HasFile.isName (h : directory.HasFile folders name content) (hnames : directory.WellNamed) :
    ∀ own ∈ folders ++ [name], IsName own := by
  induction h with
  | here => exact List.forall_mem_singleton.mpr hnames.1
  | inside _ ih => exact List.forall_mem_cons.mpr ⟨hnames.1, ih hnames.2.2.1⟩
  | besideFile _ ih => exact ih hnames.2.2
  | besideFolder _ ih => exact ih hnames.2.2.2

end Directory

namespace Fixture

/-- The fixture is a file of the directory, and its name ends as names of fixtures do. -/
structure Found.IsIn (directory : Directory) (found : Found) : Prop where
  hasFile : directory.HasFile found.folders found.name found.content
  isFixture : extension.toList <:+ found.name.toList

variable {directory : Directory} {found : Found}

/-- Below the folders that lead to a directory, its fixtures are found and nothing else. -/
theorem mem_foundBelow {folders : List String} :
    found ∈ foundBelow folders directory ↔
      ∃ further, found.folders = folders ++ further ∧
        directory.HasFile further found.name found.content ∧
        extension.toList <:+ found.name.toList := by
  induction directory generalizing folders with
  | nil =>
    constructor
    · intro h
      cases h
    · rintro ⟨further, -, hfile, -⟩
      cases hfile
  | file name content rest ih =>
    have hmem : found ∈ foundBelow folders (.file name content rest) ↔
        (isFixtureName name = true ∧ found = ⟨folders, name, content⟩) ∨
          found ∈ foundBelow folders rest := by
      rw [foundBelow]
      split
      next h => simp [h]
      next h => simp [h]
    rw [hmem, ih, isFixtureName, List.isSuffixOf_iff_suffix]
    constructor
    · rintro (⟨hname, rfl⟩ | ⟨further, hfolders, hfile, hfixture⟩)
      · exact ⟨[], (List.append_nil folders).symm, .here, hname⟩
      · exact ⟨further, hfolders, .besideFile hfile, hfixture⟩
    · obtain ⟨_, _, _⟩ := found
      rintro ⟨further, hfolders, hfile, hfixture⟩
      cases hfile with
      | here =>
        rw [List.append_nil] at hfolders
        exact .inl ⟨hfixture, by rw [← hfolders]⟩
      | besideFile hrest => exact .inr ⟨further, hfolders, hrest, hfixture⟩
  | folder name inside rest ihc ihs =>
    rw [foundBelow, List.mem_append, ihc, ihs]
    constructor
    · rintro (⟨further, hfolders, hfile, hfixture⟩ | ⟨further, hfolders, hfile, hfixture⟩)
      · rw [List.append_assoc] at hfolders
        exact ⟨name :: further, hfolders, .inside hfile, hfixture⟩
      · exact ⟨further, hfolders, .besideFolder hfile, hfixture⟩
    · rintro ⟨further, hfolders, hfile, hfixture⟩
      cases hfile with
      | inside hinside =>
        exact .inl ⟨_, hfolders.trans (List.append_cons ..), hinside, hfixture⟩
      | besideFolder hrest => exact .inr ⟨further, hfolders, hrest, hfixture⟩

/-- The fixtures that are found in a directory are those that are in it. -/
theorem mem_foundBelow_nil : found ∈ foundBelow [] directory ↔ found.IsIn directory := by
  rw [mem_foundBelow]
  constructor
  · rintro ⟨further, hfolders, hfile, hfixture⟩
    rw [List.nil_append] at hfolders
    exact ⟨hfolders ▸ hfile, hfixture⟩
  · rintro ⟨hfile, hfixture⟩
    exact ⟨found.folders, rfl, hfile, hfixture⟩

/-- The way to a fixture starts with an entry, behind the folders that lead to the directory. -/
theorem exists_names_of_mem_foundBelow {folders : List String}
    (h : found ∈ foundBelow folders directory) :
    ∃ first ∈ directory.names, ∃ later, found.names = folders ++ first :: later := by
  obtain ⟨further, hfolders, hfile, -⟩ := mem_foundBelow.mp h
  obtain ⟨first, hfirst, hhead⟩ := hfile.exists_head
  obtain ⟨later, hlater⟩ := List.head?_eq_some_iff.mp hhead
  refine ⟨first, hfirst, later, ?_⟩
  rw [Found.names, hfolders, List.append_assoc, hlater]

/-- No fixture is found twice. -/
theorem nodup_names_foundBelow (hnames : directory.WellNamed) (folders : List String) :
    ((foundBelow folders directory).map Found.names).Nodup := by
  -- the rest of a directory has other first names than the entry before it
  have hapart {name : String} {rest : Directory} (hname : name ∉ rest.names) {folders later} :
      folders ++ name :: later ∉ (foundBelow folders rest).map Found.names := by
    intro hmem
    obtain ⟨other, hother, heq⟩ := List.mem_map.mp hmem
    obtain ⟨first, hfirst, after, hafter⟩ := exists_names_of_mem_foundBelow hother
    obtain ⟨rfl, -⟩ := List.cons.inj (List.append_cancel_left (hafter.symm.trans heq))
    exact hname hfirst
  induction directory generalizing folders with
  | nil => exact List.nodup_nil
  | file name content rest ih =>
    obtain ⟨-, hname, hrest⟩ := hnames
    rw [foundBelow]
    split
    · rw [List.map_cons, List.nodup_cons]
      exact ⟨hapart hname, ih hrest folders⟩
    · exact ih hrest folders
  | folder name inside rest ihc ihs =>
    obtain ⟨-, hname, hinside, hrest⟩ := hnames
    rw [foundBelow, List.map_append, List.nodup_append]
    refine ⟨ihc hinside _, ihs hrest folders, ?_⟩
    intro row hrow other hother heq
    obtain ⟨one, hone, rfl⟩ := List.mem_map.mp hrow
    obtain ⟨first, -, later, hlater⟩ := exists_names_of_mem_foundBelow hone
    rw [List.append_assoc] at hlater
    rw [← heq, hlater] at hother
    exact hapart hname hother

/-! ### Names joined by slashes -/

/-- Names joined by slashes are cut at these. -/
theorem piecesAt_intercalate {names : List String} (hne : names ≠ [])
    (hnames : ∀ name ∈ names, Directory.IsName name) :
    piecesAt '/' ("/".intercalate names).toList = names.map String.toList := by
  have hslash : "/".toList = ['/'] := rfl
  rw [String.toList_intercalate, hslash, ← joinBy_eq_intercalate]
  apply piecesAt_joinBy (by simpa using hne)
  rw [List.forall_mem_map]
  exact fun name hname ↦ (hnames name hname).noSlash

/-- Names are not joined to the empty text. -/
theorem intercalate_ne_empty {names : List String} (hne : names ≠ [])
    (hnames : ∀ name ∈ names, Directory.IsName name) : "/".intercalate names ≠ "" := by
  intro h
  have hcut := piecesAt_intercalate hne hnames
  obtain ⟨name, rest, rfl⟩ := List.exists_cons_of_ne_nil hne
  rw [h, List.map_cons] at hcut
  apply (hnames name List.mem_cons_self).ne_empty
  exact String.toList_eq_nil_iff.mp (List.cons.inj hcut).1.symm

/-- Names are determined by what they are joined to. -/
theorem intercalate_inj {names names' : List String}
    (hnames : ∀ name ∈ names, Directory.IsName name)
    (hnames' : ∀ name ∈ names', Directory.IsName name)
    (h : "/".intercalate names = "/".intercalate names') : names = names' := by
  by_cases hne : names = []
  · by_contra hother
    rw [hne] at h
    exact intercalate_ne_empty (fun hnil ↦ hother (hne.trans hnil.symm)) hnames' h.symm
  · have hne' : names' ≠ [] := by
      rintro rfl
      exact intercalate_ne_empty hne hnames h
    have hcut := piecesAt_intercalate hne hnames
    rw [h, piecesAt_intercalate hne' hnames'] at hcut
    have hinjective : Function.Injective String.toList := fun _ _ ↦ String.toList_injective
    exact (List.map_injective_iff.mpr hinjective hcut).symm

/-- There is nothing in a joined text but what was joined and the separator. -/
theorem mem_joinBy {separator c : Char} {parts : List (List Char)}
    (h : c ∈ joinBy separator parts) : c = separator ∨ ∃ part ∈ parts, c ∈ part := by
  fun_induction joinBy separator parts with
  | case1 => cases h
  | case2 part => exact .inr ⟨part, List.mem_singleton_self part, h⟩
  | case3 part rest hrest ih =>
    obtain hpart | h := List.mem_append.mp h
    · exact .inr ⟨part, List.mem_cons_self, hpart⟩
    · obtain rfl | hlater := List.mem_cons.mp h
      · exact .inl rfl
      · apply (ih hlater).imp_right
        rintro ⟨other, hother, hc⟩
        exact ⟨other, List.mem_cons_of_mem part hother, hc⟩

/-- What the path of an entry starts with. -/
def pathBase (path : String) : String :=
  if path = "" ∨ path.toList.getLast? = some '/' then path else path ++ "/"

/-- The path of an entry is its name behind that. -/
theorem join_eq (path name : String) : Path.join path name = pathBase path ++ name := by
  rw [Path.join, pathBase]
  split <;> rfl

/-- The path of an entry is a directory's that is not the root. -/
theorem pathBase_join {name : String} (hname : Directory.IsName name) (path : String) :
    pathBase (Path.join path name) = Path.join path name ++ "/" := by
  have hne : name.toList ≠ [] := fun h ↦ hname.ne_empty (String.toList_eq_nil_iff.mp h)
  rw [pathBase, join_eq, if_neg]
  rintro (hempty | hlast)
  · rw [← String.toList_eq_nil_iff, String.toList_append] at hempty
    exact hne (List.append_eq_nil_iff.mp hempty).2
  · rw [String.toList_append, List.getLast?_append_of_ne_nil _ hne] at hlast
    exact hname.noSlash (List.mem_of_getLast? hlast)

/-- Below a path, names are joined by slashes. -/
theorem foldl_join {names : List String} (hne : names ≠ [])
    (hnames : ∀ name ∈ names, Directory.IsName name) (path : String) :
    names.foldl Path.join path = pathBase path ++ "/".intercalate names := by
  induction names generalizing path with
  | nil => exact absurd rfl hne
  | cons name rest ih =>
    obtain ⟨hname, hrest⟩ := List.forall_mem_cons.mp hnames
    rw [List.foldl_cons]
    cases rest with
    | nil => rw [List.foldl_nil, join_eq, String.intercalate_singleton]
    | cons next later =>
      rw [ih (List.cons_ne_nil next later) hrest, pathBase_join hname, join_eq,
        String.intercalate_cons_cons, String.append_assoc, String.append_assoc,
        String.append_assoc]

namespace Found.IsIn

variable {other : Found}

/-- All names on the way to a fixture are names of entries. -/
theorem isName (h : found.IsIn directory) (hnames : directory.WellNamed) :
    ∀ name ∈ found.names, Directory.IsName name := h.hasFile.isName hnames

/-- The category of a fixture is the path of its folder. -/
theorem category_eq (h : found.IsIn directory) (hnames : directory.WellNamed) :
    found.category = "/".intercalate found.folders := by
  have hslash : "/".toList = ['/'] := rfl
  have hkeep : ∀ c ∈ ("/".intercalate found.folders).toList,
      (if c = '\\' then '/' else c) = id c := by
    intro c hc
    apply if_neg
    rintro rfl
    rw [String.toList_intercalate, hslash, ← joinBy_eq_intercalate] at hc
    obtain hseparator | ⟨part, hpart, hmem⟩ := mem_joinBy hc
    · cases hseparator
    · obtain ⟨name, hname, rfl⟩ := List.mem_map.mp hpart
      exact (h.isName hnames name (List.mem_append_left _ hname)).noBackslash hmem
  rw [Found.category, List.map_congr_left hkeep, List.map_id, String.ofList_toList]

/-- Different fixtures have different paths. -/
theorem eq_of_path_eq (h : found.IsIn directory) (hother : other.IsIn directory)
    (hnames : directory.WellNamed) {root : String} (heq : found.path root = other.path root) :
    found = other := by
  have hne (found : Found) : found.names ≠ [] :=
    List.append_ne_nil_of_right_ne_nil _ (List.cons_ne_nil _ _)
  rw [Found.path, Found.path, foldl_join (hne found) (h.isName hnames),
    foldl_join (hne other) (hother.isName hnames), String.append_right_inj] at heq
  have hrow := intercalate_inj (h.isName hnames) (hother.isName hnames) heq
  exact List.inj_on_of_nodup_map (nodup_names_foundBelow hnames []) (mem_foundBelow_nil.mpr h)
    (mem_foundBelow_nil.mpr hother) hrow

end Found.IsIn

/-! ### Categories -/

namespace Category

/-- A name is put into an ascending list so that it stays ascending. -/
theorem pairwise_insertName (name : String) {names : List String} (h : names.Pairwise (· < ·)) :
    (insertName name names).Pairwise (· < ·) := by
  induction names with
  | nil => exact List.pairwise_singleton _ _
  | cons other rest ih =>
    obtain ⟨hother, hrest⟩ := List.pairwise_cons.mp h
    rw [insertName]
    split
    next hlt =>
      refine List.pairwise_cons.mpr ⟨?_, h⟩
      exact List.forall_mem_cons.mpr ⟨hlt, fun later hlater ↦ hlt.trans (hother later hlater)⟩
    next hle =>
      split
      next => exact h
      next hne =>
        refine List.pairwise_cons.mpr ⟨?_, ih hrest⟩
        intro later hlater
        obtain rfl | hmem := mem_insertName.mp hlater
        · exact lt_of_le_of_ne (not_lt.mp hle) (Ne.symm hne)
        · exact hother later hmem

/-- The names of categories are all different. -/
theorem nodup_namesOf (found : List Found) : (namesOf found).Nodup := by
  have hpairwise : (namesOf found).Pairwise (· < ·) := by
    unfold namesOf
    induction found.map Found.category with
    | nil => exact .nil
    | cons name rest ih => exact pairwise_insertName name ih
  exact hpairwise.imp ne_of_lt

/-- Categories sort the fixtures of a directory by the folders that these are in. -/
structure Sorts (directory : Directory) (categories : List Category) : Prop where
  distinct : (categories.map Category.name).Nodup
  /-- Every fixture is in one category and no other. -/
  filed : ∀ found : Found, found.IsIn directory →
    ∃! category, category ∈ categories ∧ found ∈ category.fixtures
  /-- Nothing else is in a category, and it is named by the folder. -/
  named : ∀ category ∈ categories, ∀ found ∈ category.fixtures,
    found.IsIn directory ∧ category.name = "/".intercalate found.folders
  inhabited : ∀ category ∈ categories, category.fixtures ≠ []
  once : ∀ category ∈ categories, category.fixtures.Nodup

/-- The fixtures of a category by name are those of that category. -/
theorem mem_ofName {name : String} {all : List Found} :
    found ∈ (ofName all name).fixtures ↔ found ∈ all ∧ found.category = name := by
  rw [ofName, List.mem_mergeSort, List.mem_filter, decide_eq_true_eq]

/-- The fixtures that are found in a directory are sorted by their folders. -/
theorem sorts_ofDirectory (hnames : directory.WellNamed) :
    Sorts directory (ofDirectory directory) := by
  let all := foundBelow [] directory
  have hcategory : ∀ category ∈ ofDirectory directory,
      category = ofName all category.name ∧ category.name ∈ namesOf all := by
    intro category hmem
    obtain ⟨name, hname, rfl⟩ := List.mem_map.mp hmem
    exact ⟨rfl, hname⟩
  constructor
  · have hmap : (ofDirectory directory).map Category.name = namesOf all := by
      rw [ofDirectory, List.map_map]
      exact List.map_id _
    rw [hmap]
    exact nodup_namesOf all
  · intro found hfound
    have hall : found ∈ all := mem_foundBelow_nil.mpr hfound
    refine ⟨ofName all found.category, ⟨?_, mem_ofName.mpr ⟨hall, rfl⟩⟩, ?_⟩
    · exact List.mem_map_of_mem (mem_namesOf.mpr ⟨found, hall, rfl⟩)
    · rintro other ⟨hmem, hother⟩
      obtain ⟨heq, -⟩ := hcategory other hmem
      rw [heq] at hother
      rw [heq, (mem_ofName.mp hother).2]
  · intro category hmem found hfound
    obtain ⟨heq, -⟩ := hcategory category hmem
    rw [heq] at hfound
    obtain ⟨hall, hname⟩ := mem_ofName.mp hfound
    have hin := mem_foundBelow_nil.mp hall
    exact ⟨hin, hname.symm.trans (hin.category_eq hnames)⟩
  · intro category hmem
    obtain ⟨heq, hname⟩ := hcategory category hmem
    obtain ⟨found, hall, hfound⟩ := mem_namesOf.mp hname
    rw [heq]
    exact List.ne_nil_of_mem (mem_ofName.mpr ⟨hall, hfound⟩)
  · intro category hmem
    obtain ⟨heq, -⟩ := hcategory category hmem
    have hall : all.Nodup := (nodup_names_foundBelow hnames []).of_map
    rw [heq, ofName, (List.mergeSort_perm _ _).nodup_iff]
    exact hall.filter _

end Category
end Fixture
end Colloquy
