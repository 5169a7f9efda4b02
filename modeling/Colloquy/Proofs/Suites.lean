import Colloquy.Fixture.Suite
import Colloquy.Proofs.Discovery

/-!
# Running suites of fixtures

A request without the slashes around it covers the category that it names and those below. The
fixtures that run are those of the covered categories, in the order of these. Each runs once, as
the categories of a directory share no fixture and a category is chosen once, however many requests
cover it. `Tells` has the report of a run, line by line: it names each of these fixtures once, with
its verdict, and counts both kinds. A run ends well when some category is chosen and every fixture
of the chosen ones passes. How TOML documents are read and how markdown is rendered makes no
difference to any of this.
-/

namespace Colloquy.Fixture

open Text

/-! ### Requests -/

/-- Without the slashes around it the request is the name of the category, or of one above it. -/
def Covers (request name : String) : Prop :=
  ∃ front core back, request.toList = front ++ (core ++ back) ∧ (∀ c ∈ front ++ back, c = '/') ∧
    core.head? ≠ some '/' ∧ core.getLast? ≠ some '/' ∧
    (name.toList = core ∨ core ++ ['/'] <+: name.toList)

/-- The category is asked for: nothing is requested at all, or some request covers it. -/
def IsRequested (requests : List String) (name : String) : Prop :=
  requests = [] ∨ ∃ request ∈ requests, Covers request name

namespace Category

/-- A request is cut down to what is between its slashes. -/
theorem toList_requestCore_eq_iff {request : String} {core : List Char}
    (hhead : core.head? ≠ some '/') (hlast : core.getLast? ≠ some '/') :
    (requestCore request).toList = core ↔
      ∃ front back, request.toList = front ++ (core ++ back) ∧ ∀ c ∈ front ++ back, c = '/' := by
  have hstays {side : Option Char} (h : side ≠ some '/') : ∀ c ∈ side, (c == '/') = false := by
    rintro c hc
    rw [beq_eq_false_iff_ne]
    rintro rfl
    exact h hc
  rw [requestCore, String.toList_ofList,
    dropEndWhile_dropWhile_eq_iff (hstays hhead) (hstays hlast)]
  simp only [beq_iff_eq, List.forall_mem_append]

/-- A request, cut down, selects the categories that it covers. -/
theorem isSelectedBy_requestCore_iff {name request : String} :
    isSelectedBy name (requestCore request) = true ↔ Covers request name := by
  have hselected : isSelectedBy name (requestCore request) = true ↔
      name.toList = (requestCore request).toList ∨
        (requestCore request).toList ++ ['/'] <+: name.toList := by
    rw [isSelectedBy, Bool.or_eq_true, beq_iff_eq, List.isPrefixOf_iff_prefix, String.toList_append,
      String.toList_inj]
    rfl
  rw [hselected]
  constructor
  · intro h
    have hhead : (requestCore request).toList.head? ≠ some '/' := by
      rw [requestCore, String.toList_ofList]
      exact fun hslash ↦ nomatch head?_dropEndWhile_dropWhile _ _ _ '/' hslash
    have hlast : (requestCore request).toList.getLast? ≠ some '/' := by
      rw [requestCore, String.toList_ofList]
      exact fun hslash ↦ nomatch getLast?_dropEndWhile _ _ '/' hslash
    obtain ⟨front, back, hrequest, hslashes⟩ := (toList_requestCore_eq_iff hhead hlast).mp rfl
    exact ⟨front, _, back, hrequest, hslashes, hhead, hlast, h⟩
  · rintro ⟨front, core, back, hrequest, hslashes, hhead, hlast, h⟩
    rw [(toList_requestCore_eq_iff hhead hlast).mpr ⟨front, back, hrequest, hslashes⟩]
    exact h

instance (request name : String) : Decidable (Covers request name) :=
  decidable_of_iff _ isSelectedBy_requestCore_iff

/-- The categories that are selected are those that are asked for. -/
theorem mem_select_iff {categories : List Category} {requests : List String} {category : Category} :
    category ∈ select categories requests ↔
      category ∈ categories ∧ IsRequested requests category.name := by
  rw [select, IsRequested]
  split
  next hempty => simp [List.isEmpty_iff.mp hempty]
  next hempty =>
    rw [List.isEmpty_iff] at hempty
    simp only [List.mem_filter, List.any_map, List.any_eq_true, Function.comp_apply,
      isSelectedBy_requestCore_iff, hempty, false_or]

end Category

/-! ### Reports -/

/-- The verdict on a fixture in a directory. -/
def Found.verdict (judge : Judge) (root : String) (found : Found) : Verdict :=
  judge (found.path root) found.content

/-- Lines as a text, each with a line feed behind it. -/
def textOf (lines : List String) : String := String.join (lines.map (· ++ "\n"))

/-- A text as a terminal is told to show it, or the bare text. -/
def styled (color : Bool) (style text : String) : String :=
  if color then "\x1b[" ++ style ++ "m" ++ text ++ "\x1b[0m" else text

/-- What the report calls a category. -/
def Category.title (category : Category) : String :=
  if category.name = "" then "(root)" else category.name

/-- The lines about the requests that cover no category. -/
def vainLines (categories : List Category) (requests : List String) : List String :=
  (requests.filter fun request ↦ ∀ category ∈ categories, ¬Covers request category.name).map
    fun request ↦
      "warning: category '" ++ Category.requestCore request ++ "' not found (available: " ++
        ", ".intercalate (categories.map Category.title) ++ ")"

/-- The line about a fixture. -/
def verdictLine (color : Bool) (verdict : Verdict) : String :=
  "  " ++ (if verdict.passes then styled color "32" "PASS" else styled color "31" "FAIL") ++ "  " ++
    verdict.label

/-- The lines about a category: its title with a blank line above, and each of its fixtures. -/
def categoryLines (color : Bool) (verdict : Found → Verdict) (category : Category) : List String :=
  ["", styled color "1" category.title] ++
    category.fixtures.map fun found ↦ verdictLine color (verdict found)

/-- The lines about a failure: the path of the fixture with a blank line above, and the reason. -/
def failureLines (verdict : Verdict) : List String :=
  verdict.reason.elim [] fun reason ↦
    ["", "  --- " ++ verdict.path ++ " ---"] ++
      (displayed reason.message.toList).map fun line ↦ "  " ++ String.ofList line

/-- The line about how many fixtures passed and failed. -/
def countLine (color : Bool) (passed failed : Nat) : String :=
  if failed = 0 then
    "test result: " ++ styled color "32" "ok" ++ ". " ++ toString passed ++ " passed, 0 failed"
  else
    "test result: " ++ styled color "31" "FAILED" ++ ". " ++ toString passed ++ " passed, " ++
      toString failed ++ " failed (of " ++ toString (passed + failed) ++ ")"

/-- A report tells of a run of some categories: of the requests in vain, of each fixture by its
verdict, of the reasons of all failures, and of how many there are of both kinds. -/
def Tells (color : Bool) (categories chosen : List Category) (requests : List String)
    (verdict : Found → Verdict) (report : Report) : Prop :=
  let verdicts := (chosen.flatMap Category.fixtures).map verdict
  ∃ passed failed, passed = verdicts.countP Verdict.passes ∧ passed + failed = verdicts.length ∧
    report.messages = textOf (vainLines categories requests ++
      chosen.flatMap (categoryLines color verdict) ++
      (if failed = 0 then [] else ["", "failures:"] ++ verdicts.flatMap failureLines) ++
      ["", countLine color passed failed])

/-- Two lists of lines are two texts. -/
theorem textOf_append (first later : List String) :
    textOf (first ++ later) = textOf first ++ textOf later := by
  rw [textOf, List.map_append, String.join_append]
  rfl

/-- Lines for each of some things are a text for each. -/
theorem textOf_flatMap {α : Type} (things : List α) (lines : α → List String) :
    textOf (things.flatMap lines) = String.join (things.map fun thing ↦ textOf (lines thing)) := by
  induction things with
  | nil => rfl
  | cons thing rest ih =>
    rw [List.flatMap_cons, textOf_append, ih, List.map_cons, String.join_cons]

/-- Some lines, one for each of some things, are a text. -/
theorem textOf_map {α : Type} (things : List α) (line : α → String) :
    textOf (things.map line) = String.join (things.map fun thing ↦ reportLine (line thing)) := by
  rw [textOf, List.map_map]
  rfl

/-- The requests that select nothing are those that cover no category, cut down. -/
theorem unmatched_eq (categories : List Category) (requests : List String) :
    Category.unmatched categories requests =
      (requests.filter fun request ↦
        ∀ category ∈ categories, ¬Covers request category.name).map Category.requestCore := by
  rw [Category.unmatched, List.filter_map]
  congr 1
  refine List.filter_congr fun request _ ↦ ?_
  rw [Bool.eq_iff_iff, Function.comp_apply, Bool.not_eq_true', decide_eq_true_eq,
    List.any_eq_false]
  simp only [Category.isSelectedBy_requestCore_iff]

/-- The warnings about requests are about those that cover no category. -/
theorem join_unmatchedWarning (categories : List Category) (requests : List String) :
    String.join ((Category.unmatched categories requests).map (unmatchedWarning categories)) =
      textOf (vainLines categories requests) := by
  rw [unmatched_eq, List.map_map, vainLines, textOf_map]
  rfl

/-- A section has the lines of its category. -/
theorem text_ofCategory (judge : Judge) (color : Bool) (root : String) (category : Category) :
    (Section.ofCategory judge root category).text color =
      textOf (categoryLines color (Found.verdict judge root) category) := by
  have hlines : ((Section.ofCategory judge root category).verdicts.map (Verdict.line color)) =
      category.fixtures.map fun found ↦
        reportLine (verdictLine color (Found.verdict judge root found)) := by
    rw [Section.ofCategory, List.map_map]
    rfl
  rw [categoryLines, textOf_append, textOf_map, ← hlines]
  rfl

/-- The account of a verdict, of which there is none when the fixture passes. -/
theorem account_eq_textOf (verdict : Verdict) : verdict.account = textOf (failureLines verdict) := by
  rw [Verdict.account, failureLines]
  cases verdict.reason with
  | none => rfl
  | some reason =>
    rw [Option.elim_some, textOf_append, textOf_map]
    rfl

/-- The accounts of the failures among some verdicts. -/
theorem join_account (verdicts : List Verdict) :
    String.join ((verdicts.filter fun verdict ↦ !verdict.passes).map Verdict.account) =
      textOf (verdicts.flatMap failureLines) := by
  induction verdicts with
  | nil => rfl
  | cons verdict rest ih =>
    rw [List.flatMap_cons, textOf_append, ← ih, ← account_eq_textOf, List.filter_cons]
    split
    next => rw [List.map_cons, String.join_cons]
    next hpasses =>
      have hreason : verdict.reason = none := by simpa [Verdict.passes] using hpasses
      simp only [Verdict.account, hreason, String.empty_append]

/-- The accounts of the failures stand below a title, if there are any. -/
theorem accounts_eq_textOf (verdicts : List Verdict) :
    let failed := verdicts.filter fun verdict ↦ !verdict.passes
    accounts failed = textOf (if failed.length = 0 then []
      else ["", "failures:"] ++ verdicts.flatMap failureLines) := by
  intro failed
  rw [accounts]
  simp only [List.isEmpty_iff, List.length_eq_zero_iff]
  split
  · rfl
  · rw [textOf_append, ← join_account]
    rfl

/-- The counts stand below a blank line. -/
theorem tally_eq_textOf (color : Bool) (passed failed : Nat) :
    reportLine "" ++ tally color passed failed = textOf ["", countLine color passed failed] := by
  rw [tally, countLine]
  split <;> rfl

variable {directory : Directory} {requests : List String} {judge : Judge}

/-- The sections of some categories have the verdicts on their fixtures. -/
theorem verdicts_ofCategory (judge : Judge) (root : String) (categories : List Category) :
    (categories.map (Section.ofCategory judge root)).flatMap Section.verdicts =
      (categories.flatMap Category.fixtures).map (Found.verdict judge root) := by
  rw [List.flatMap_map, List.map_flatMap]
  rfl

/-- The sections of some categories are the lines about these. -/
theorem join_text_ofCategory (judge : Judge) (color : Bool) (root : String)
    (categories : List Category) :
    String.join ((categories.map (Section.ofCategory judge root)).map (Section.text color)) =
      textOf (categories.flatMap (categoryLines color (Found.verdict judge root))) := by
  rw [textOf_flatMap, List.map_map]
  congr 1
  exact List.map_congr_left fun category _ ↦ text_ofCategory judge color root category

/-- The report on some categories tells of them. -/
theorem tells_reportOn (color : Bool) (root : String) (categories chosen : List Category)
    (requests : List String) :
    let report := reportOn color (chosen.map (Section.ofCategory judge root))
    let warnings :=
      String.join ((Category.unmatched categories requests).map (unmatchedWarning categories))
    Tells color categories chosen requests (Found.verdict judge root)
      { report with messages := warnings ++ report.messages } := by
  intro report warnings
  refine ⟨_, _, List.countP_eq_length_filter.symm,
    (List.length_eq_length_filter_add Verdict.passes).symm, ?_⟩
  simp only [textOf_append, ← join_unmatchedWarning, ← join_text_ofCategory judge,
    ← accounts_eq_textOf, ← tally_eq_textOf, ← verdicts_ofCategory]
  simp only [report, warnings, reportOn, String.append_assoc]

/-! ### Runs -/

/-- The report on some sections ends well exactly when all their verdicts are good. -/
theorem exit_reportOn_eq_zero_iff {color : Bool} {sections : List Section} :
    (reportOn color sections).exit = 0 ↔
      ∀ verdict ∈ sections.flatMap Section.verdicts, verdict.passes = true := by
  simp only [reportOn, ite_eq_left_iff, one_ne_zero, imp_false, not_not, List.isEmpty_iff,
    List.filter_eq_nil_iff, Bool.not_eq_true, Bool.not_eq_false']

/-- The fixtures of the categories that are asked for are those that are in the folders of these. -/
theorem mem_flatMap_select (hnames : directory.WellNamed) {found : Found} :
    found ∈ (Category.select (Category.ofDirectory directory) requests).flatMap Category.fixtures ↔
      found.IsIn directory ∧ IsRequested requests ("/".intercalate found.folders) := by
  have hsorts := Category.sorts_ofDirectory hnames
  rw [List.mem_flatMap]
  constructor
  · rintro ⟨category, hmem, hfound⟩
    obtain ⟨hcategory, hrequested⟩ := Category.mem_select_iff.mp hmem
    obtain ⟨hin, hname⟩ := hsorts.named category hcategory found hfound
    exact ⟨hin, hname ▸ hrequested⟩
  · rintro ⟨hin, hrequested⟩
    obtain ⟨category, ⟨hcategory, hfound⟩, -⟩ := hsorts.filed found hin
    have hname := (hsorts.named category hcategory found hfound).2
    exact ⟨category, Category.mem_select_iff.mpr ⟨hcategory, hname ▸ hrequested⟩, hfound⟩

/-- No path is run twice. -/
theorem nodup_paths_select (hnames : directory.WellNamed) (root : String) :
    (((Category.select (Category.ofDirectory directory) requests).flatMap Category.fixtures).map
      (Found.path root)).Nodup := by
  have hsorts := Category.sorts_ofDirectory hnames
  have hsublist : (Category.select (Category.ofDirectory directory) requests).Sublist
      (Category.ofDirectory directory) := by
    rw [Category.select]
    split
    · exact .refl _
    · exact List.filter_sublist
  apply List.Nodup.map_on
  · intro found hfound other hother heq
    exact ((mem_flatMap_select hnames).mp hfound).1.eq_of_path_eq
      ((mem_flatMap_select hnames).mp hother).1 hnames heq
  · rw [List.nodup_flatMap]
    constructor
    · exact fun category hmem ↦ hsorts.once category (hsublist.mem hmem)
    · have hnodup := (hsublist.map Category.name).nodup hsorts.distinct
      refine (List.pairwise_map.mp hnodup).imp_of_mem ?_
      intro category other hmem hother hne found hfound hfound'
      have hname := (hsorts.named category (hsublist.mem hmem) found hfound).2
      have hname' := (hsorts.named other (hsublist.mem hother) found hfound').2
      exact hne (hname.trans hname'.symm)

/-- A run over a directory runs the categories of it, if there are any. -/
theorem run_folder_eq (judge : Judge) (color : Bool) (path : String) (requests : List String)
    (directory : Directory) :
    run judge color path requests (.ok (.folder directory)) =
      if (Category.ofDirectory directory).isEmpty then .failure (nothingFound path)
      else runCategories judge color path (Category.ofDirectory directory) requests := rfl

/-- Without a category to run, a run fails. -/
theorem run_of_select_eq_nil {color : Bool} {path : String}
    (h : Category.select (Category.ofDirectory directory) requests = []) :
    (run judge color path requests (.ok (.folder directory))).exit = 1 := by
  rw [run_folder_eq]
  split
  · rfl
  · rw [runCategories, h]
    rfl

/-- With categories to run, a run reports on them, behind the warnings about requests in vain. -/
theorem run_of_select_ne_nil {color : Bool} {path : String}
    (h : Category.select (Category.ofDirectory directory) requests ≠ []) :
    run judge color path requests (.ok (.folder directory)) =
      let categories := Category.ofDirectory directory
      let report := reportOn color ((Category.select categories requests).map
        (Section.ofCategory judge path))
      let warnings :=
        String.join ((Category.unmatched categories requests).map (unmatchedWarning categories))
      { report with messages := warnings ++ report.messages } := by
  have hcategories : Category.ofDirectory directory ≠ [] := by
    intro hnil
    rw [hnil, Category.select] at h
    split at h <;> exact h rfl
  rw [run_folder_eq, if_neg (by simpa using hcategories), runCategories,
    if_neg (by simpa using h)]

/-- A run over a directory sorts the fixtures in it, chooses the categories that are asked for, and
runs each fixture of these once and no other. It tells of all their verdicts, and it ends well
exactly when some category is chosen and all fixtures of the chosen ones pass. -/
theorem run_folder (hnames : directory.WellNamed) (read : String → Option Toml.Entries)
    (markdown : MarkdownRenderer ElementTree) (color : Bool) (path : String)
    (requests : List String) :
    let verdict := Found.verdict (Verdict.ofFileBy read markdown) path
    let categories := Category.ofDirectory directory
    let chosen := Category.select categories requests
    let ran := chosen.flatMap Category.fixtures
    let report :=
      run (Verdict.ofFileBy read markdown) color path requests (.ok (.folder directory))
    Category.Sorts directory categories ∧
    (∀ category, category ∈ chosen ↔
      category ∈ categories ∧ IsRequested requests category.name) ∧
    (∀ found, found ∈ ran ↔
      found.IsIn directory ∧ IsRequested requests ("/".intercalate found.folders)) ∧
    (ran.map (Found.path path)).Nodup ∧
    (chosen ≠ [] → Tells color categories chosen requests verdict report) ∧
    (report.exit = 0 ↔ chosen ≠ [] ∧ ∀ found ∈ ran, (verdict found).passes = true) := by
  intro verdict categories chosen ran report
  refine ⟨Category.sorts_ofDirectory hnames, fun category ↦ Category.mem_select_iff,
    fun found ↦ mem_flatMap_select hnames, nodup_paths_select hnames path, ?_⟩
  by_cases hchosen : chosen = []
  · have hexit : report.exit = 1 := run_of_select_eq_nil hchosen
    refine ⟨fun hne ↦ absurd hchosen hne, ?_⟩
    rw [hexit]
    exact ⟨fun h ↦ absurd h one_ne_zero, fun h ↦ absurd hchosen h.1⟩
  · have hreport : report = _ := run_of_select_ne_nil hchosen
    rw [hreport]
    constructor
    · exact fun _ ↦ tells_reportOn color path categories chosen requests
    · rw [exit_reportOn_eq_zero_iff, verdicts_ofCategory, List.forall_mem_map]
      exact ⟨fun h ↦ ⟨hchosen, h⟩, fun h ↦ h.2⟩

/-- Fixtures in a folder, in one inside it and in one with a longer name, and another file. -/
def shelf : Directory :=
  .folder "titles" (.folder "deep" (.file "a.test.md" (.ok "---\n\n---\n<hi") .nil)
      (.file "b.test.md" (.ok "<hi") (.file "notes.md" (.ok "") .nil)))
    (.folder "titles2" (.file "a.test.md" (.error .notText) .nil) .nil)

/-- Of four requests, three of which are for the same folders, each fixture there runs once. One of
the two fails, one request is in vain, and the folder with the longer name is left alone. The only
table on the shelf is an empty one. -/
theorem run_folder_shelf :
    let judge := Verdict.ofFileBy (fun _ ↦ some [])
      (.ofHtml (fun text ↦ "<p>" ++ text ++ "</p>") ElementTree.sink)
    let categories := Category.ofDirectory shelf
    let requests := ["titles/deep", "/titles//", "title/", "titles"]
    let chosen := Category.select categories requests
    let ran := chosen.flatMap Category.fixtures
    let report := run judge false "tests" requests (.ok (.folder shelf))
    shelf.WellNamed ∧ chosen ≠ [] ∧ (ran.map (Found.path "tests")).Nodup ∧
      ran.map Found.names = [["titles", "b.test.md"], ["titles", "deep", "a.test.md"]] ∧
      Tells false categories chosen requests (Found.verdict judge "tests") report ∧
      report =
        ⟨1, "", "warning: category 'title' not found (available: titles, titles/deep, titles2)\n" ++
          "\ntitles\n  FAIL  b.test\n" ++
          "\ntitles/deep\n  PASS  a.test\n" ++
          "\nfailures:\n" ++
          "\n  --- tests/titles/b.test.md ---\n" ++
          "  frontmatter error: missing opening --- frontmatter delimiter\n" ++
          "\ntest result: FAILED. 1 passed, 1 failed (of 2)\n"⟩ := by
  intro judge categories requests chosen ran report
  have hnames : shelf.WellNamed := by decide
  have hchosen : chosen ≠ [] := by decide +kernel
  obtain ⟨-, -, -, hnodup, htells, -⟩ := run_folder hnames (fun _ ↦ some [])
    (.ofHtml (fun text ↦ "<p>" ++ text ++ "</p>") ElementTree.sink) false "tests" requests
  exact ⟨hnames, hchosen, hnodup, by decide +kernel, htells hchosen, by decide +kernel⟩

end Colloquy.Fixture
