import Colloquy.Proofs.Outcomes
import Colloquy.Proofs.Splitting

/-!
# Line numbers of warnings

A warning is reported on the line of the byte position where it starts, and that line is found by
counting the line feeds before it. The position of a warning is where its line starts without the
white space before it: between two characters, and on the piece of the source that the line was cut
from. Lines have numbers that go up, and so have the warnings, which are reported for some of the
lines in their order.
-/

namespace Colloquy

open Text

namespace Text

variable {cs front back : List Char} {position index : Nat}

/-- The byte position is between characters, behind as many line feeds as the index says. -/
def LiesOn (cs : List Char) (position index : Nat) : Prop :=
  ∃ before after, cs = before ++ after ∧ byteLength before = position ∧ before.count '\n' = index

/-- The number of a line is one more than its index. -/
theorem LiesOn.lineNumber? (h : LiesOn cs position index) :
    lineNumber? cs position = some (index + 1) := by
  obtain ⟨before, after, rfl, rfl, rfl⟩ := h
  have hmin : min (byteLength before) (byteLength (before ++ after)) = byteLength before := by
    rw [byteLength_append]
    omega
  rw [Text.lineNumber?, hmin, takeBytes?_append]
  rfl

/-- A text may go on behind a position. -/
theorem LiesOn.append (h : LiesOn cs position index) (later : List Char) :
    LiesOn (cs ++ later) position index := by
  obtain ⟨before, after, rfl, hposition, hindex⟩ := h
  exact ⟨before, after ++ later, List.append_assoc .., hposition, hindex⟩

/-- There is one piece more than there are line feeds. -/
theorem length_pieces (cs : List Char) : (pieces cs).length = cs.count '\n' + 1 := by
  induction cs with
  | nil => rfl
  | cons c cs ih =>
    rw [pieces] at ih
    rw [pieces, piecesAt]
    split
    next hc => rw [List.length_cons, ih, hc, List.count_cons_self]
    next hc => rw [List.length_modifyHead, ih, List.count_cons_of_ne hc]

/-- Behind a line feed the lines are counted on from the pieces before it. -/
theorem LiesOn.behind (h : LiesOn back position index) (front : List Char) :
    LiesOn (front ++ '\n' :: back) (position + (byteLength front + 1))
      ((pieces front).length + index) := by
  obtain ⟨before, after, rfl, rfl, rfl⟩ := h
  refine ⟨front ++ '\n' :: before, after, by simp, ?_, ?_⟩
  · have hfeed : '\n'.utf8Size = 1 := rfl
    rw [byteLength_append, byteLength, hfeed]
    omega
  · rw [List.count_append, List.count_cons_self, length_pieces]
    omega

end Text

namespace SourceLine

variable {cs front back : List Char} {line : SourceLine} {index : Nat}

/-- The line is what trimming leaves of the piece of the index, and starts on that piece. -/
structure CutFrom (cs : List Char) (index : Nat) (line : SourceLine) : Prop where
  start : LiesOn cs line.span.start index
  text : ∃ raw, (pieces cs)[index]? = some raw ∧ trim raw = line.text.toList

/-- A line is cut from one of the pieces. -/
theorem CutFrom.index_lt (h : CutFrom cs index line) : index < (pieces cs).length := by
  obtain ⟨raw, hraw, -⟩ := h.text
  exact (List.getElem?_eq_some_iff.mp hraw).1

/-- A line before a line feed is cut from the same piece as without what is behind it. -/
theorem CutFrom.before (h : CutFrom front index line) (back : List Char) :
    CutFrom (front ++ '\n' :: back) index line where
  start := h.start.append _
  text := by
    obtain ⟨raw, hraw, htrim⟩ := h.text
    refine ⟨raw, ?_, htrim⟩
    rw [pieces_append_lineFeed, List.getElem?_append_left h.index_lt, hraw]

/-- A line behind a line feed is cut from a piece that comes after those before it. -/
theorem CutFrom.behind (h : CutFrom back index line) (front : List Char) :
    CutFrom (front ++ '\n' :: back) ((pieces front).length + index)
      (line.shift (byteLength front + 1)) where
  start := h.start.behind front
  text := by
    obtain ⟨raw, hraw, htrim⟩ := h.text
    refine ⟨raw, ?_, htrim⟩
    rw [pieces_append_lineFeed, List.getElem?_append_right (Nat.le_add_right ..),
      Nat.add_sub_cancel_left, hraw]

/-- A text without a line feed has one piece, from which its line is cut. -/
theorem cutFrom_single (h : '\n' ∉ cs) : ∀ line ∈ ofText cs, CutFrom cs 0 line := by
  rw [ofText, pieces_of_not_mem h, ofPieces, ofPieces, Nat.zero_add]
  split
  next => exact List.forall_mem_nil _
  next =>
    rw [List.forall_mem_singleton]
    have hleading : '\n' ∉ cs.takeWhile isBlank := fun hmem ↦
      h ((List.takeWhile_sublist isBlank).mem hmem)
    constructor
    · exact ⟨_, _, List.takeWhile_append_dropWhile.symm, rfl, List.count_eq_zero.mpr hleading⟩
    · refine ⟨cs, ?_, (String.toList_ofList).symm⟩
      rw [pieces_of_not_mem h]
      rfl

/-- The pieces that lines are cut from come in the order of the lines, no piece twice. -/
def InOrder (cs : List Char) (line later : SourceLine) : Prop :=
  ∃ index next, CutFrom cs index line ∧ CutFrom cs next later ∧ index < next

/-- Every line is cut from a piece, and each one from a later piece than those before it. -/
theorem cutFrom_ofText (cs : List Char) :
    (∀ line ∈ ofText cs, ∃ index, CutFrom cs index line) ∧ (ofText cs).Pairwise (InOrder cs) := by
  refine ofText_induction (motive := fun cs lines ↦
    (∀ line ∈ lines, ∃ index, CutFrom cs index line) ∧ lines.Pairwise (InOrder cs)) ?_ ?_ cs
  · intro cs h
    refine ⟨fun line hline ↦ ⟨0, cutFrom_single h line hline⟩, ?_⟩
    rw [ofText, pieces_of_not_mem h, ofPieces, ofPieces]
    split
    next => exact .nil
    next => exact List.pairwise_singleton _ _
  · rintro front back ⟨hfront, hfrontOrder⟩ ⟨hback, hbackOrder⟩
    constructor
    · rw [List.forall_mem_append, List.forall_mem_map]
      constructor
      · intro line hline
        obtain ⟨index, hcut⟩ := hfront line hline
        exact ⟨index, hcut.before back⟩
      · intro line hline
        obtain ⟨index, hcut⟩ := hback line hline
        exact ⟨_, hcut.behind front⟩
    · rw [List.pairwise_append, List.pairwise_map]
      refine ⟨?_, ?_, ?_⟩
      · apply hfrontOrder.imp
        rintro line later ⟨index, next, hline, hlater, hlt⟩
        exact ⟨index, next, hline.before back, hlater.before back, hlt⟩
      · apply hbackOrder.imp
        rintro line later ⟨index, next, hline, hlater, hlt⟩
        exact ⟨_, _, hline.behind front, hlater.behind front, Nat.add_lt_add_left hlt _⟩
      · intro line hline later hlater
        obtain ⟨other, hother, rfl⟩ := List.mem_map.mp hlater
        obtain ⟨index, hcut⟩ := hfront line hline
        obtain ⟨next, hnext⟩ := hback other hother
        have hlt := hcut.index_lt
        exact ⟨index, _, hcut.before back, hnext.behind front, by omega⟩

end SourceLine

/-! ### Warnings among lines -/

/-- Warnings stand where lines do, in the order of the lines and one for a line at most. -/
theorem spans_warningsFrom_sublist (sourceId : Nat) (before : Option Directive)
    (lines : List Line) :
    ((warningsFrom sourceId before lines).map (·.span)).Sublist (lines.map (·.span)) := by
  induction lines generalizing before with
  | nil => exact .slnil
  | cons line rest ih =>
    rw [warningsFrom, List.map_append, List.map_cons, Line.warning?]
    cases line.directive.warningText? before with
    | none => exact (ih _).cons _
    | some text => exact (ih _).cons_cons _

/-- A warning is that of one of the lines, whose directive is at fault. -/
theorem Script.exists_warningAt? (script : Script) {warning : Warning}
    (h : warning ∈ warningsFrom script.sourceId none script.lines) :
    ∃ place line, script.lines[place]? = some line ∧ warning.span = line.span ∧
      script.warningAt? place = some warning := by
  rw [Script.warningsFrom_lines] at h
  obtain ⟨place, -, hplace⟩ := List.mem_filterMap.mp h
  obtain ⟨line, hline, hrest⟩ := Option.bind_eq_some_iff.mp hplace
  obtain ⟨text, -, hwarning⟩ := Option.bind_eq_some_iff.mp hrest
  refine ⟨place, line, hline, ?_, hplace⟩
  rw [← Option.some.inj hwarning]

/-- A warning stands on the line that it is about. -/
structure Warning.StandsIn (source : String) (warning : Warning) : Prop where
  within : warning.span.start < byteLength source.toList
  /-- The position where it starts is between two characters. -/
  boundary : (takeBytes? source.toList warning.span.start).isSome = true
  /-- The number of that position is that of a piece between line feeds. Trimmed, the piece is what
  the source has at the span, and it reads as the directive of the script that is at fault. -/
  onLine : ∃ index raw, (pieces source.toList)[index]? = some raw ∧
    lineNumber? source.toList warning.span.start = some (index + 1) ∧
    warning.span.covered? source.toList = some (trim raw) ∧
    ∃ place, (Script.parse source 0).lines[place]? =
        some ⟨.classify (String.ofList (trim raw)), warning.span⟩ ∧
      (Script.parse source 0).warningAt? place = some warning

/-- The first of two spans starts on an earlier line of the source. -/
def Span.StartsBefore (source : String) (span later : Span) : Prop :=
  ∃ number next, lineNumber? source.toList span.start = some number ∧
    lineNumber? source.toList later.start = some next ∧ number < next

/-- The warnings of a script stand on its lines. -/
theorem Script.standsIn_of_mem {source : String} {warning : Warning}
    (h : warning ∈ warningsFrom 0 none (parse source 0).lines) : warning.StandsIn source := by
  obtain ⟨place, line, hline, hspan, hwarning⟩ := (parse source 0).exists_warningAt? h
  obtain ⟨sourceLine, hsourceLine, rfl⟩ :=
    Option.map_eq_some_iff.mp (List.getElem?_map.symm.trans hline)
  have hmem : sourceLine ∈ SourceLine.ofText source.toList := List.mem_of_getElem? hsourceLine
  have hsplitting := SourceLine.isSplitting_ofText source.toList
  obtain ⟨index, hstart, raw, hraw, htrim⟩ :=
    (SourceLine.cutFrom_ofText source.toList).1 sourceLine hmem
  have hbounds := hsplitting.bounds hmem
  simp only at hspan
  constructor
  · rw [hspan]
    omega
  · obtain ⟨front, back, hsource, hat⟩ := hsplitting.exists_eq hmem
    rw [hspan, hat, hsource, takeBytes?_append]
    rfl
  · refine ⟨index, raw, hraw, ?_, ?_, place, ?_, hwarning⟩
    · rw [hspan, hstart.lineNumber?]
    · rw [hspan, hsplitting.covered sourceLine hmem, htrim]
    · rw [htrim, String.ofList_toList, hspan]
      exact hline

/-- The lines of a script start one below another. -/
theorem Script.pairwise_startsBefore (source : String) (sourceId : Nat) :
    ((parse source sourceId).lines.map (·.span)).Pairwise (Span.StartsBefore source) := by
  have hspans : (parse source sourceId).lines.map (·.span) =
      (SourceLine.ofText source.toList).map (·.span) := by
    rw [parse, List.map_map]
    rfl
  rw [hspans, List.pairwise_map]
  apply (SourceLine.cutFrom_ofText source.toList).2.imp
  rintro line later ⟨index, next, hline, hlater, hlt⟩
  exact ⟨_, _, hline.start.lineNumber?, hlater.start.lineNumber?, Nat.succ_lt_succ hlt⟩

section

variable {σ : Type} {source : String} {config : Config} {sink : Sink σ}
  {markdown : MarkdownRenderer σ} {context : MarkdownContext} {state state' : σ} {outcome : Outcome}

/-- A drawing of a block that succeeds has the warnings of its script. -/
theorem warnings_of_renderDialogue
    (h : renderDialogue source config sink markdown context state = (.ok outcome, state')) :
    outcome.warnings = warningsFrom 0 none (Script.parse source 0).lines := by
  have houtcome := ((Script.parse source 0).always_draw config (sink.root state)).of_perform h
  rw [houtcome]
  rfl

/-- The line number of a warning is right, and there always is one: a warning starts between two
characters of the source, on the piece whose trimmed text is the directive at fault, and so is what
the source has at the span. The numbers go up along the warnings of a drawing. -/
theorem standsIn_renderDialogue
    (h : renderDialogue source config sink markdown context state = (.ok outcome, state')) :
    (∀ warning ∈ outcome.warnings, warning.StandsIn source) ∧
      outcome.warnings.Pairwise fun warning later ↦
        Span.StartsBefore source warning.span later.span := by
  rw [warnings_of_renderDialogue h]
  constructor
  · intro warning hwarning
    exact Script.standsIn_of_mem hwarning
  · have hsublist := spans_warningsFrom_sublist 0 none (Script.parse source 0).lines
    have hpairwise := (Script.pairwise_startsBefore source 0).sublist hsublist
    exact List.pairwise_map.mp hpairwise

end

/-- A block with white space of several bytes, both kinds of line ends and lines without text, in
which the second and the sixth line are at fault. -/
def raggedSource : String :=
  "\u00a0\r\n\u2003titleMode: loud\u3000\r\n\r\n<hi\r\n::yes\r\n\t::again \n"

/-- The ragged block is drawn with two warnings, on the second and the sixth line. -/
theorem standsIn_renderDialogue_raggedSource :
    ∃ outcome tree,
      renderDialogue raggedSource .default ElementTree.sink (.plain ElementTree.sink) ⟨""⟩ .empty =
        (.ok outcome, tree) ∧
      outcome.warnings =
        [⟨"unknown titleMode value 'loud' (expected one of: disabled, all, first); " ++
            "keeping the previous value", ⟨7, 22⟩, 0⟩,
          ⟨"footer attachment does not directly follow a message; ignored", ⟨42, 49⟩, 0⟩] ∧
      outcome.warnings.map (lineNumber? raggedSource.toList ·.span.start) = [some 2, some 6] ∧
      (∀ warning ∈ outcome.warnings, warning.StandsIn raggedSource) ∧
      outcome.warnings.Pairwise fun warning later ↦
        Span.StartsBefore raggedSource warning.span later.span := by
  have hok : (renderDialogue raggedSource .default ElementTree.sink (.plain ElementTree.sink) ⟨""⟩
      .empty).1.isOk := by
    decide +kernel
  obtain ⟨outcome, tree, hrun⟩ := Action.exists_of_isOk hok
  have hwarnings := warnings_of_renderDialogue hrun
  refine ⟨outcome, tree, hrun, hwarnings.trans ?_, ?_, standsIn_renderDialogue hrun⟩
  · decide +kernel
  · rw [hwarnings]
    decide +kernel

end Colloquy
