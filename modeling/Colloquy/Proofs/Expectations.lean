import Colloquy.Fixture.Check
import Colloquy.Markdown.Html
import Colloquy.Proofs.LineNumbers
import Colloquy.Proofs.Lookahead
import Colloquy.Proofs.Outline

/-!
# What fixtures pin down

`Fixture.Holds` says what the expectations of a fixture demand of a drawing: the outline, the HTML
and the warnings one for one. A fixture passes exactly when all of them hold, so a check neither
overlooks an expectation nor asks for more. The outline of a drawing starts with the wrapper and
ends, before its last line feed, with a visible character; what is trimmed for the comparison is
never a part of it, and as an outline determines its tree, so does the outline that a fixture
expects.
-/

namespace Colloquy

open Text

/-! ### Outlines -/

/-- The text does not end in white space. -/
def EndsVisibly (cs : List Char) : Prop := ∀ c ∈ cs.getLast?, isBlank c = false

/-- A joined text does not end in white space if neither part does. -/
theorem EndsVisibly.append {front back : List Char} (hfront : EndsVisibly front)
    (hback : EndsVisibly back) : EndsVisibly (front ++ back) := by
  intro c hc
  rw [List.getLast?_append, Option.mem_def, Option.or_eq_some_iff] at hc
  obtain hlast | ⟨-, hlast⟩ := hc
  · exact hback c hlast
  · exact hfront c hlast

/-- What is in front of some text does not change how it ends. -/
theorem EndsVisibly.append_left {back : List Char} (hback : EndsVisibly back) (hne : back ≠ [])
    (front : List Char) : EndsVisibly (front ++ back) := by
  intro c hc
  rw [List.getLast?_append_of_ne_nil _ hne] at hc
  exact hback c hc

/-- Quotes are at the end of what is quoted. -/
theorem endsVisibly_quoted (text : String) : EndsVisibly (quoted text).toList := by
  rw [toList_quoted, ← List.cons_append]
  apply EndsVisibly.append_left _ (List.cons_ne_nil _ _)
  rintro c ⟨⟩
  decide

/-- A line of an outline does not end in white space. -/
theorem endsVisibly_writtenLine (depth : Nat) (element : Element) :
    EndsVisibly (writtenLine depth element) := by
  have hrole : EndsVisibly element.role.name.toList := fun c hc ↦
    element.role.isBlank_of_mem_name c (List.mem_of_getLast? hc)
  have hattributes : EndsVisibly (element.attributes.flatMap writtenAttribute) := by
    induction element.attributes with
    | nil => exact fun c hc ↦ nomatch hc
    | cons entry later ih =>
      rw [List.flatMap_cons]
      refine EndsVisibly.append ?_ ih
      have hvalue := (endsVisibly_quoted entry.2).append_left
        (toList_quoted entry.2 ▸ List.cons_ne_nil _ _) (' ' :: (entry.1.toList ++ ['=']))
      rwa [List.cons_append, List.append_assoc] at hvalue
  have hcontent : EndsVisibly (writtenContent element.content) := by
    obtain _ | (text | html) := element.content
    · exact fun c hc ↦ nomatch hc
    · exact (endsVisibly_quoted text).append_left (toList_quoted text ▸ List.cons_ne_nil _ _) [' ']
    · exact (endsVisibly_quoted html).append_left (toList_quoted html ▸ List.cons_ne_nil _ _) _
  apply (hrole.append (hattributes.append hcontent)).append_left
  exact List.append_ne_nil_of_left_ne_nil element.role.name_ne_nil _

/-- A line of an outline is not empty. -/
theorem writtenLine_ne_nil (depth : Nat) (element : Element) : writtenLine depth element ≠ [] :=
  List.append_ne_nil_of_right_ne_nil _
    (List.append_ne_nil_of_left_ne_nil element.role.name_ne_nil _)

namespace ElementTree

/-- An outline with a line is a trimmed text and a line feed. -/
theorem exists_outline_eq {tree : ElementTree} (hforest : tree.forest ≠ .nil) :
    ∃ core, Trimmed core ∧ tree.outline.toList = core ++ ['\n'] := by
  rw [outline]
  rcases htree : tree.forest with _ | ⟨element, children, siblings⟩
  · exact absurd htree hforest
  let levels := (Forest.cons element children siblings).levels 0
  obtain ⟨front, ⟨depth, last⟩, hlevels⟩ : ∃ front last, levels = front ++ [last] :=
    (List.eq_nil_or_concat' levels).resolve_left (List.cons_ne_nil _ _)
  let before := (front.map fun entry ↦ writtenLine entry.1 entry.2).flatMap (· ++ ['\n'])
  have hne : before ++ writtenLine depth last ≠ [] :=
    List.append_ne_nil_of_right_ne_nil before (writtenLine_ne_nil depth last)
  have heq : (outlineOf 0 (.cons element children siblings)).toList =
      before ++ writtenLine depth last ++ ['\n'] := by
    rw [toList_outlineOf]
    change (levels.map _).flatMap _ = _
    rw [hlevels, List.map_append, List.flatMap_append, List.map_singleton, List.flatMap_singleton,
      List.append_assoc]
  refine ⟨before ++ writtenLine depth last, ⟨?_, ?_⟩, heq⟩
  · intro c hc
    rw [← List.head?_append_of_ne_nil _ hne, ← heq, toList_outlineOf_cons,
      List.head?_append_of_ne_nil _ (writtenLine_ne_nil 0 element)] at hc
    apply element.role.isBlank_of_mem_name
    apply List.mem_of_mem_head?
    change c ∈ (element.role.name.toList ++ _).head? at hc
    rwa [List.head?_append_of_ne_nil _ element.role.name_ne_nil] at hc
  · exact (endsVisibly_writtenLine depth last).append_left (writtenLine_ne_nil depth last) before

end ElementTree

/-! ### Attributes of drawings -/

namespace Sketch

/-- The attributes of a sketched node are data attributes. -/
def HasDataNames (sketch : Sketch) : Prop := ∀ entry ∈ sketch.attributes, IsDataName entry.1

/-- A node without attributes has none but data attributes. -/
theorem hasDataNames_of_eq_nil {sketch : Sketch} (h : sketch.attributes = []) :
    sketch.HasDataNames := by
  intro entry hentry
  rw [h] at hentry
  cases hentry

/-- A text has no attributes. -/
theorem hasDataNames_ofText (role : Role) (className text : String) (markdown : Bool) :
    (ofText role className text markdown).HasDataNames := by
  cases markdown <;> exact hasDataNames_of_eq_nil rfl

/-- A participant is named by data attributes. -/
theorem hasDataNames_frame (side : Side) (title : String) (id : Option String) :
    (frame side (participant title id)).HasDataNames := by
  intro entry hentry
  obtain htitle | hid := List.mem_append.mp hentry
  · split at htitle
    · cases htitle
    · rw [List.mem_singleton.mp htitle]
      exact (by decide : IsDataName "data-participant")
  · obtain ⟨text, -, rfl⟩ := List.mem_map.mp hid
    exact (by decide : IsDataName "data-participant-id")

end Sketch

/-- All attributes of a line are data attributes. -/
theorem Session.hasDataNames_sketchLine (session : Session) (next : Option Directive)
    (directive : Directive) :
    ∀ node ∈ (session.sketchLine next directive).preorder, node.HasDataNames := by
  cases directive with
  | message side content =>
    have hoptional {node : Sketch} {part : Option Sketch} (hpart : ∀ node ∈ part, node.HasDataNames)
        (h : node ∈ (Forest.optional part).preorder) : node.HasDataNames := by
      cases part with
      | none => cases h
      | some own => exact hpart node (congrArg some (List.mem_singleton.mp h).symm)
    intro node hnode
    simp only [sketchLine, sketchMessage, Sketch.message, Forest.preorder, Forest.preorder_append,
      List.append_nil, List.mem_cons, List.mem_append] at hnode
    obtain rfl | rfl | (htitle | hcontent) | hfooter := hnode
    · exact Sketch.hasDataNames_frame side _ _
    · exact Sketch.hasDataNames_of_eq_nil rfl
    · refine hoptional ?_ htitle
      intro own hown
      split at hown
      · cases hown
        exact Sketch.hasDataNames_ofText _ _ _ _
      · cases hown
    · refine hoptional ?_ hcontent
      rintro own ⟨⟩
      exact Sketch.hasDataNames_ofText _ _ _ _
    · refine hoptional ?_ hfooter
      intro own hown
      obtain ⟨text, -, rfl⟩ := Option.map_eq_some_iff.mp hown
      exact Sketch.hasDataNames_ofText _ _ _ _
  | comment content =>
    intro node hnode
    simp only [sketchLine, Sketch.comment, Forest.preorder, List.append_nil, List.mem_cons,
      List.not_mem_nil, or_false] at hnode
    obtain rfl | rfl := hnode
    · exact Sketch.hasDataNames_of_eq_nil rfl
    · exact Sketch.hasDataNames_ofText .commentBody Classes.comment content _
  | delimiter =>
    intro node hnode
    simp only [sketchLine, Sketch.delimiter, Sketch.dots, Forest.preorder, List.append_nil,
      List.nil_append, List.mem_cons, List.not_mem_nil, or_false] at hnode
    obtain rfl | rfl | rfl | rfl | rfl := hnode <;> exact Sketch.hasDataNames_of_eq_nil rfl
  | unparsed content =>
    intro node hnode
    rw [sketchLine] at hnode
    split at hnode
    · cases hnode
    · rw [List.mem_singleton.mp hnode]
      exact Sketch.hasDataNames_ofText _ _ _ _
  | _ =>
    intro node hnode
    cases hnode

/-- All attributes of consecutive lines are data attributes. -/
theorem Session.hasDataNames_sketch (session : Session) (directives : List Directive) :
    ∀ node ∈ (session.sketch directives).preorder, node.HasDataNames := by
  induction directives generalizing session with
  | nil => exact fun node hnode ↦ nomatch hnode
  | cons directive rest ih =>
    rw [sketch, Forest.preorder_append, List.forall_mem_append]
    exact ⟨session.hasDataNames_sketchLine rest.head? directive, ih (session.advance directive)⟩

/-- Elements that look as sketched have the attributes of the sketched nodes. -/
theorem Forest.Depicts.map_attributes {allowed : String → Option Content → Prop}
    {drawn : Forest (NodeId × Element)} {sketch : Forest Sketch}
    (h : drawn.Depicts allowed sketch) :
    drawn.map (·.2.attributes) = sketch.map Sketch.attributes := by
  apply Related.eq_map
  rw [related_map_left]
  exact h.mono fun entry node hentry ↦ hentry.attributes_eq

/-- A drawing on the empty tree with a renderer that writes no more than contents and does not fail
comes to its end. It has the warnings of its script, at least one node, and data attributes only. -/
theorem exists_renderDialogue_empty {markdown : MarkdownRenderer ElementTree}
    {context : MarkdownContext} {allowed : String → Option Content → Prop}
    (hwrites : markdown.Writes id context allowed)
    (hraise : ∀ error, ¬ markdown.CanRaise id context error) (source : String) (config : Config) :
    ∃ outcome tree,
      renderDialogue source config ElementTree.sink markdown context .empty = (.ok outcome, tree) ∧
      tree.forest ≠ .nil ∧ ∀ element ∈ tree.forest.preorder, element.HasDataNames := by
  have hdraw := (Script.parse source 0).ensures_draw ElementTree.grown_empty config allowed
  obtain ⟨outcome, tree, hrun, -, below, hcanvas, hdepicts⟩ | ⟨error, tree, -, herror⟩ :=
    hdraw.of_perform ElementTree.sink_carries hwrites
  · have hforest : tree.forest.map Element.bare =
        .cons wrapperElement (below.map Prod.snd) .nil := hcanvas.forest_eq
    refine ⟨outcome, tree, hrun, ?_, ?_⟩
    · intro hnil
      rw [hnil] at hforest
      cases hforest
    · let sketch := (Session.ofConfig config).sketch (Script.parse source 0).directives
      have hattributes : tree.forest.map Element.attributes =
          .cons [] (sketch.map Sketch.attributes) .nil :=
        calc tree.forest.map Element.attributes
          _ = (tree.forest.map Element.bare).map Element.attributes :=
              (Forest.map_map Element.attributes Element.bare tree.forest).symm
          _ = .cons [] ((below.map Prod.snd).map Element.attributes) .nil := by
              rw [hforest]
              rfl
          _ = .cons [] (sketch.map Sketch.attributes) .nil := by
              rw [Forest.map_map]
              exact congrArg (Forest.cons [] · .nil) hdepicts.map_attributes
      intro element helement entry hentry
      have hmem : element.attributes ∈ (tree.forest.map Element.attributes).preorder := by
        rw [Forest.preorder_map]
        exact List.mem_map_of_mem helement
      rw [hattributes, Forest.preorder, Forest.preorder, List.append_nil, Forest.preorder_map,
        List.mem_cons] at hmem
      obtain hnil | hsketch := hmem
      · rw [hnil] at hentry
        cases hentry
      · obtain ⟨node, hnode, heq⟩ := List.mem_map.mp hsketch
        exact Session.hasDataNames_sketch _ _ node hnode entry (heq ▸ hentry)
  · exact absurd herror (hraise error)

/-! ### Expectations -/

/-- A warning is as expected: the text is a part of its message, and the line, if one is given, is
that on which it starts. -/
structure Warning.Meets (source : String) (warning : Warning) (expected : ExpectedWarning) :
    Prop where
  text : expected.contains.toList <:+: warning.message.toList
  line : ∀ line ∈ expected.line,
    ∃ index, LiesOn source.toList warning.span.start index ∧ line = index + 1

namespace Fixture

/-- The expected text is the outline with line breaks before it and white space after it. The last
line feed of the outline may be missing. -/
def MatchesOutline (expected outline : String) : Prop :=
  ∃ breaks core blanks, outline.toList = core ++ ['\n'] ∧
    expected.toList = breaks ++ (core ++ blanks) ∧
    (∀ c ∈ breaks, c = '\n' ∨ c = '\r') ∧ ∀ c ∈ blanks, isBlank c = true

/-- Every expectation of the fixture holds of a drawing of its block. -/
structure Holds (fixture : Fixture) (source : String) (outcome : Outcome) (tree : ElementTree) :
    Prop where
  outline : ∀ expected ∈ fixture.outline, MatchesOutline expected tree.outline
  html : ∀ part ∈ fixture.html, part.toList <:+: tree.toHtml.toList
  warnings : ∀ expected ∈ fixture.warnings,
    List.Forall₂ (Warning.Meets source) outcome.warnings expected

variable {source expected actual : String} {core : List Char} {warning : Warning}

/-- An expected text matches an outline exactly when it is cut down to what comes before the last
line feed of that. -/
theorem matchesOutline_iff (hcore : Trimmed core) (hactual : actual.toList = core ++ ['\n']) :
    MatchesOutline expected actual ↔ outlineCore expected = String.ofList core := by
  have hhead : ∀ c ∈ core.head?, (c = '\n' ∨ c = '\r' : Bool) = false := by
    intro c hc
    have hblank := hcore.head c hc
    rw [decide_eq_false_iff_not]
    rintro (rfl | rfl) <;> cases hblank
  rw [outlineCore, String.ofList_inj, trimEnd, dropEndWhile_dropWhile_eq_iff hhead hcore.last]
  simp only [decide_eq_true_eq]
  constructor
  · rintro ⟨breaks, other, blanks, hother, hexpected⟩
    obtain rfl := List.append_cancel_right (hother.symm.trans hactual)
    exact ⟨breaks, blanks, hexpected⟩
  · rintro ⟨breaks, blanks, hexpected⟩
    exact ⟨breaks, core, blanks, hactual, hexpected⟩

/-- An outline is accepted exactly when the expectation of it holds. -/
theorem checkOutline_eq_none_iff (hcore : Trimmed core)
    (hactual : actual.toList = core ++ ['\n']) :
    checkOutline expected actual = none ↔ MatchesOutline expected actual := by
  have htrim : trimEnd actual.toList = core := by
    rw [hactual]
    exact dropEndWhile_append_of_forall hcore.last (List.forall_mem_singleton.mpr rfl)
  rw [matchesOutline_iff hcore hactual, checkOutline, htrim, eq_comm (b := String.ofList core)]
  simp

/-- A text is accepted exactly when it is a part of the HTML. -/
theorem checkHtml_eq_none_iff :
    checkHtml actual expected = none ↔ expected.toList <:+: actual.toList := by
  rw [← containsChars_iff, checkHtml, contains]
  simp

/-- The position of a warning is between two characters, on some line. -/
theorem exists_liesOn (h : warning.StandsIn source) :
    ∃ index, LiesOn source.toList warning.span.start index := by
  obtain ⟨front, hfront⟩ := Option.isSome_iff_exists.mp h.boundary
  obtain ⟨back, hsource, hbytes⟩ := exists_of_takeBytes? hfront
  exact ⟨_, front, back, hsource, hbytes, rfl⟩

/-- A line is accepted exactly when the warning starts on it. -/
theorem checkLine_eq_none_iff (h : warning.StandsIn source) {index number : Nat} :
    checkLine source index warning number = none ↔
      ∃ place, LiesOn source.toList warning.span.start place ∧ number = place + 1 := by
  obtain ⟨line, hline⟩ := exists_liesOn h
  rw [checkLine, hline.lineNumber?]
  simp only [ite_eq_left_iff, reduceCtorEq, imp_false, not_not]
  constructor
  · rintro rfl
    exact ⟨line, hline, rfl⟩
  · rintro ⟨place, hplace, rfl⟩
    exact Option.some.inj (hline.lineNumber?.symm.trans hplace.lineNumber?)

/-- A warning is accepted exactly when it is as expected. -/
theorem checkWarning_eq_none_iff (h : warning.StandsIn source) {index : Nat}
    {expected : ExpectedWarning} :
    checkWarning source index warning expected = none ↔ warning.Meets source expected := by
  rw [checkWarning]
  split
  next htext =>
    rw [contains, containsChars_iff] at htext
    rw [Option.bind_eq_none_iff]
    constructor
    · intro hline
      exact ⟨htext, fun line hmem ↦ (checkLine_eq_none_iff h).mp (hline line hmem)⟩
    · intro hmeets line hmem
      exact (checkLine_eq_none_iff h).mpr (hmeets.line line hmem)
  next htext =>
    rw [contains, containsChars_iff] at htext
    constructor
    · intro hsome
      cases hsome
    · intro hmeets
      exact absurd hmeets.text htext

/-- Warnings are accepted exactly when they are as expected, one for one. -/
theorem checkWarnings_eq_none_iff {warnings : List Warning} {expected : List ExpectedWarning}
    (h : ∀ warning ∈ warnings, warning.StandsIn source) :
    checkWarnings source warnings expected = none ↔
      List.Forall₂ (Warning.Meets source) warnings expected := by
  rw [checkWarnings, List.forall₂_iff_zip]
  split
  next hlength =>
    rw [List.findSome?_eq_none_iff]
    constructor
    · intro hall
      refine ⟨hlength, fun {warning wanted} hmem ↦ ?_⟩
      obtain ⟨index, hindex⟩ := List.mem_iff_getElem?.mp hmem
      have hnone := hall ((warning, wanted), index) (List.mk_mem_zipIdx_iff_getElem?.mpr hindex)
      exact (checkWarning_eq_none_iff (h warning (List.of_mem_zip hmem).1)).mp hnone
    · rintro ⟨-, hall⟩ ⟨⟨warning, wanted⟩, index⟩ hmem
      have hzip := List.fst_mem_of_mem_zipIdx hmem
      exact (checkWarning_eq_none_iff (h warning (List.of_mem_zip hzip).1)).mpr (hall hzip)
  next hlength =>
    constructor
    · intro hsome
      cases hsome
    · exact fun hboth ↦ absurd hboth.1 hlength

/-- A drawing is accepted exactly when every expectation holds of it. -/
theorem checkDrawing_eq_none_iff {fixture : Fixture} {outcome : Outcome} {tree : ElementTree}
    (hforest : tree.forest ≠ .nil)
    (hwarnings : ∀ warning ∈ outcome.warnings, warning.StandsIn source) :
    fixture.checkDrawing source outcome tree = none ↔ fixture.Holds source outcome tree := by
  obtain ⟨core, hcore, hactual⟩ := ElementTree.exists_outline_eq hforest
  rw [checkDrawing, Option.orElse_eq_none, Option.orElse_eq_none, Option.bind_eq_none_iff,
    List.findSome?_eq_none_iff, Option.bind_eq_none_iff]
  constructor
  · rintro ⟨houtline, hhtml, hexpected⟩
    constructor
    · intro expected hmem
      exact (checkOutline_eq_none_iff hcore hactual).mp (houtline expected hmem)
    · intro part hmem
      exact checkHtml_eq_none_iff.mp (hhtml part hmem)
    · intro expected hmem
      exact (checkWarnings_eq_none_iff hwarnings).mp (hexpected expected hmem)
  · intro hholds
    refine ⟨?_, ?_, ?_⟩
    · intro expected hmem
      exact (checkOutline_eq_none_iff hcore hactual).mpr (hholds.outline expected hmem)
    · intro part hmem
      exact checkHtml_eq_none_iff.mpr (hholds.html part hmem)
    · intro expected hmem
      exact (checkWarnings_eq_none_iff hwarnings).mpr (hholds.warnings expected hmem)

/-- Trees that one expected text matches agree node by node. -/
theorem map_shown_eq_of_matchesOutline {tree tree' : ElementTree} (hforest : tree.forest ≠ .nil)
    (hforest' : tree'.forest ≠ .nil)
    (hnames : ∀ element ∈ tree.forest.preorder, element.HasDataNames)
    (hnames' : ∀ element ∈ tree'.forest.preorder, element.HasDataNames)
    (h : MatchesOutline expected tree.outline) (h' : MatchesOutline expected tree'.outline) :
    tree.forest.map Element.shown = tree'.forest.map Element.shown := by
  obtain ⟨core, hcore, hactual⟩ := ElementTree.exists_outline_eq hforest
  obtain ⟨core', hcore', hactual'⟩ := ElementTree.exists_outline_eq hforest'
  rw [matchesOutline_iff hcore hactual] at h
  rw [matchesOutline_iff hcore' hactual'] at h'
  obtain rfl := String.ofList_inj.mp (h.symm.trans h')
  have heq : tree.outline.toList ++ [] = tree'.outline.toList ++ [] := by
    rw [hactual, hactual']
  exact (ElementTree.outlineOf_append_inj hnames hnames' (.inl rfl) (.inl rfl) heq).1

/-- With a renderer that writes no more than contents and does not fail, a fixture passes exactly
when every expectation holds of the drawing of its block. So fixtures that expect one outline and
pass, whatever their blocks and settings, have drawings that agree node by node. -/
theorem check_eq_none_iff {markdown : MarkdownRenderer ElementTree}
    {allowed : String → Option Content → Prop}
    (hwrites : ∀ context, markdown.Writes id context allowed)
    (hraise : ∀ context error, ¬ markdown.CanRaise id context error) (fixture : Fixture)
    (source : String) (context : MarkdownContext) :
    ∃ outcome tree,
      renderDialogue source fixture.settings ElementTree.sink markdown context .empty =
        (.ok outcome, tree) ∧
      (fixture.check source markdown context = none ↔ fixture.Holds source outcome tree) ∧
      ∀ (other : Fixture) (source' : String) (context' : MarkdownContext) (expected : String),
        fixture.outline = some expected → other.outline = some expected →
        fixture.check source markdown context = none →
        other.check source' markdown context' = none →
        ∃ outcome' tree',
          renderDialogue source' other.settings ElementTree.sink markdown context' .empty =
            (.ok outcome', tree') ∧
          tree.forest.map Element.shown = tree'.forest.map Element.shown := by
  have hdrawn (fixture : Fixture) (source : String) (context : MarkdownContext) :
      ∃ outcome tree,
        renderDialogue source fixture.settings ElementTree.sink markdown context .empty =
          (.ok outcome, tree) ∧
        tree.forest ≠ .nil ∧ (∀ element ∈ tree.forest.preorder, element.HasDataNames) ∧
        (fixture.check source markdown context = none ↔ fixture.Holds source outcome tree) := by
    obtain ⟨outcome, tree, hrun, hforest, hnames⟩ :=
      exists_renderDialogue_empty (hwrites context) (hraise context) source fixture.settings
    refine ⟨outcome, tree, hrun, hforest, hnames, ?_⟩
    rw [check, hrun]
    apply checkDrawing_eq_none_iff hforest
    rw [warnings_of_renderDialogue hrun]
    exact fun warning hmem ↦ Script.standsIn_of_mem hmem
  obtain ⟨outcome, tree, hrun, hforest, hnames, hiff⟩ := hdrawn fixture source context
  refine ⟨outcome, tree, hrun, hiff, ?_⟩
  intro other source' context' expected houtline houtline' hpass hpass'
  obtain ⟨outcome', tree', hrun', hforest', hnames', hiff'⟩ := hdrawn other source' context'
  refine ⟨outcome', tree', hrun', ?_⟩
  exact map_shown_eq_of_matchesOutline hforest hforest' hnames hnames'
    ((hiff.mp hpass).outline expected houtline) ((hiff'.mp hpass').outline expected houtline')

/-- A fixture of one comment and a footer that finds no message, on the second line. Its expected
outline has line breaks before it and white space after it. -/
def strictFixture : Fixture where
  description := none
  settings := .default
  outline := some "\n\r\nwrapper\n  comment\n    comment-body \"a\"\n \t\n"
  html := ["<div"]
  warnings := some [⟨"footer", some 2⟩]

/-- The same outline is expected under another setting, and no more than that. -/
def looseFixture : Fixture where
  description := none
  settings := { Config.default with presentation.commentMaxWidth := "40%" }
  outline := strictFixture.outline
  html := []
  warnings := none

/-- Both fixtures pass, and their drawings agree but for the width of the comment. -/
theorem check_eq_none_iff_strictFixture :
    ∃ outcome tree outcome' tree',
      renderDialogue "#a\n::late" strictFixture.settings ElementTree.sink
        (.ofHtml Markdown.toHtml ElementTree.sink) ⟨""⟩ .empty = (.ok outcome, tree) ∧
      renderDialogue "\r\n\t#a" looseFixture.settings ElementTree.sink
        (.ofHtml Markdown.toHtml ElementTree.sink) ⟨"note.md"⟩ .empty = (.ok outcome', tree') ∧
      strictFixture.Holds "#a\n::late" outcome tree ∧ tree ≠ tree' ∧
      tree.forest.map Element.shown = tree'.forest.map Element.shown := by
  let markdown : MarkdownRenderer ElementTree := .ofHtml Markdown.toHtml ElementTree.sink
  have hpass : strictFixture.check "#a\n::late" markdown ⟨""⟩ = none := by decide +kernel
  have hpass' : looseFixture.check "\r\n\t#a" markdown ⟨"note.md"⟩ = none := by decide +kernel
  have hfills (context : MarkdownContext) := MarkdownRenderer.ofHtml_fills Markdown.toHtml context
  obtain ⟨outcome, tree, hrun, hiff, hpin⟩ := check_eq_none_iff
    (fun context ↦ (hfills context).writes) (fun context ↦ (hfills context).not_canRaise)
    strictFixture "#a\n::late" ⟨""⟩
  obtain ⟨outcome', tree', hrun', hshown⟩ :=
    hpin looseFixture "\r\n\t#a" ⟨"note.md"⟩ _ rfl rfl hpass hpass'
  refine ⟨outcome, tree, outcome', tree', hrun, hrun', hiff.mp hpass, ?_, hshown⟩
  have hne : (renderDialogue "#a\n::late" strictFixture.settings ElementTree.sink markdown ⟨""⟩
        .empty).2 ≠
      (renderDialogue "\r\n\t#a" looseFixture.settings ElementTree.sink markdown ⟨"note.md"⟩
        .empty).2 := by
    decide +kernel
  rwa [hrun, hrun'] at hne

/-- A fixture that expects a wrapper and nothing else. -/
def wrapperFixture : Fixture where
  description := none
  settings := .default
  outline := some "wrapper"
  html := []
  warnings := none

/-- An expected outline without the last line feed is accepted. -/
theorem check_wrapperFixture :
    ∃ outcome tree,
      renderDialogue "" wrapperFixture.settings ElementTree.sink
        (.ofHtml Markdown.toHtml ElementTree.sink) ⟨""⟩ .empty = (.ok outcome, tree) ∧
      tree.outline = "wrapper\n" ∧
      wrapperFixture.check "" (.ofHtml Markdown.toHtml ElementTree.sink) ⟨""⟩ = none ∧
      ¬∃ breaks blanks, "wrapper".toList = breaks ++ (tree.outline.toList ++ blanks) := by
  have hok : (renderDialogue "" wrapperFixture.settings ElementTree.sink
      (.ofHtml Markdown.toHtml ElementTree.sink) ⟨""⟩ .empty).1.isOk := by
    decide +kernel
  have houtline : (renderDialogue "" wrapperFixture.settings ElementTree.sink
      (.ofHtml Markdown.toHtml ElementTree.sink) ⟨""⟩ .empty).2.outline = "wrapper\n" := by
    decide +kernel
  obtain ⟨outcome, tree, hrun⟩ := Action.exists_of_isOk hok
  rw [hrun] at houtline
  refine ⟨outcome, tree, hrun, houtline, by decide +kernel, ?_⟩
  rintro ⟨breaks, blanks, heq⟩
  rw [houtline] at heq
  have hmem : '\n' ∈ "wrapper".toList := by
    rw [heq]
    simp
  exact absurd hmem (by decide)

end Fixture

end Colloquy
