import Colloquy.Proofs.Requests
import Colloquy.Proofs.Trimming
import Mathlib.Logic.Relation

/-!
# Layout of a source

The layout of a source is what may be edited without touching what its lines say: line endings, the
white space around lines, and lines of nothing but white space. Such an edit keeps the trimmed texts
of the lines, and these alone decide about the directives; the byte spans of the lines only reach
the warnings. So sources of one layout ask for the same, and their warnings differ in nothing but
where they point, which is the same text in either source.
-/

namespace Colloquy

open Text

/-! ### Layout edits -/

/-- What follows stands at the start of a line. -/
def StartsLine (front : List Char) : Prop := front = [] ∨ ∃ earlier, front = earlier ++ ['\n']

/-- What comes before stands at the end of a line. -/
def EndsLine (back : List Char) : Prop := back = [] ∨ ∃ later, back = '\n' :: later

/-- White space that is not a line feed. -/
def IsPadding (c : Char) : Prop := isBlank c = true ∧ c ≠ '\n'

instance (c : Char) : Decidable (IsPadding c) :=
  inferInstanceAs (Decidable (isBlank c = true ∧ c ≠ '\n'))

/-- A single addition to the layout of a text. -/
inductive LayoutEdit : List Char → List Char → Prop
  /-- A line feed becomes a carriage return and a line feed. -/
  | carriageReturn (front back : List Char) :
    LayoutEdit (front ++ '\n' :: back) (front ++ '\r' :: '\n' :: back)
  /-- A line gets white space at its start. -/
  | indent {front : List Char} {c : Char} (back : List Char) (hfront : StartsLine front)
    (hc : IsPadding c) : LayoutEdit (front ++ back) (front ++ c :: back)
  /-- A line gets white space at its end. -/
  | trail (front : List Char) {back : List Char} {c : Char} (hback : EndsLine back)
    (hc : IsPadding c) : LayoutEdit (front ++ back) (front ++ c :: back)
  /-- A line of white space comes before a line. -/
  | blankLine {front blanks : List Char} (back : List Char) (hfront : StartsLine front)
    (hblanks : ∀ c ∈ blanks, IsPadding c) :
    LayoutEdit (front ++ back) (front ++ blanks ++ '\n' :: back)
  /-- A line of white space comes after the last line. -/
  | lastLine (front : List Char) {blanks : List Char} (hblanks : ∀ c ∈ blanks, IsPadding c) :
    LayoutEdit front (front ++ '\n' :: blanks)

/-- The texts differ by additions to the layout and removals of such additions, of any number and in
any order. -/
def SameLayout : List Char → List Char → Prop := Relation.EqvGen LayoutEdit

namespace Text

variable {c : Char}

/-- What the lines of a text say: its pieces without the white space around them, as far as there is
anything left. -/
def lineTexts (cs : List Char) : List (List Char) := ((pieces cs).map trim).filter (!·.isEmpty)

/-- What stands on either side of a line feed has its own lines. -/
theorem lineTexts_append_lineFeed (front back : List Char) :
    lineTexts (front ++ '\n' :: back) = lineTexts front ++ lineTexts back := by
  rw [lineTexts, pieces_append_lineFeed, List.map_append, List.filter_append]
  rfl

/-- White space at the start is trimmed away. -/
theorem trim_cons_of_isBlank (h : isBlank c = true) (cs : List Char) : trim (c :: cs) = trim cs := by
  rw [trim, trimStart, List.dropWhile_cons_of_pos h]
  rfl

/-- White space at the end is trimmed away. -/
theorem trim_append_of_isBlank (h : isBlank c = true) (cs : List Char) :
    trim (cs ++ [c]) = trim cs := by
  have hend : ∀ text, trimEnd (text ++ [c]) = trimEnd text := fun text ↦
    List.rdropWhile_concat_pos isBlank text c h
  have hblank : [c].dropWhile isBlank = [] := List.dropWhile_cons_of_pos h
  rw [trim, trimStart, List.dropWhile_append, hblank]
  split
  next hnone => rw [trim, trimStart, List.isEmpty_iff.mp hnone]
  next => exact hend _

/-- White space at the start of a text is not part of what its lines say. -/
theorem lineTexts_cons_of_isPadding (h : IsPadding c) (cs : List Char) :
    lineTexts (c :: cs) = lineTexts cs := by
  rw [lineTexts, pieces, piecesAt, if_neg h.2, lineTexts, pieces]
  cases hpieces : piecesAt '\n' cs with
  | nil => exact absurd hpieces (piecesAt_ne_nil '\n' cs)
  | cons first later =>
    rw [List.modifyHead_cons, List.map_cons, List.map_cons, trim_cons_of_isBlank h.1]

/-- A text has one line only, or a last line after a line feed. -/
theorem exists_last_line (cs : List Char) :
    '\n' ∉ cs ∨ ∃ earlier last, '\n' ∉ last ∧ cs = earlier ++ '\n' :: last := by
  induction cs with
  | nil => exact .inl List.not_mem_nil
  | cons c cs ih =>
    obtain honly | ⟨earlier, last, hlast, rfl⟩ := ih
    · by_cases hc : c = '\n'
      · exact .inr ⟨[], cs, honly, by rw [hc, List.nil_append]⟩
      · refine .inl fun hmem ↦ ?_
        exact (List.mem_cons.mp hmem).elim (fun heq ↦ hc heq.symm) honly
    · exact .inr ⟨c :: earlier, last, hlast, rfl⟩

/-- White space at the end of a text is not part of what its lines say. -/
theorem lineTexts_append_of_isPadding (h : IsPadding c) (cs : List Char) :
    lineTexts (cs ++ [c]) = lineTexts cs := by
  have hline : ∀ line : List Char, '\n' ∉ line → lineTexts (line ++ [c]) = lineTexts line := by
    intro line hline
    have hpadded : '\n' ∉ line ++ [c] := by
      rw [List.mem_append, List.mem_singleton, not_or]
      exact ⟨hline, h.2.symm⟩
    rw [lineTexts, lineTexts, pieces_of_not_mem hline, pieces_of_not_mem hpadded,
      List.map_singleton, List.map_singleton, trim_append_of_isBlank h.1]
  obtain honly | ⟨earlier, last, hlast, rfl⟩ := exists_last_line cs
  · exact hline cs honly
  · rw [List.append_assoc, List.cons_append, lineTexts_append_lineFeed, hline last hlast,
      lineTexts_append_lineFeed]

/-- Lines of white space say nothing. -/
theorem lineTexts_of_isPadding {blanks : List Char} (h : ∀ c ∈ blanks, IsPadding c) :
    lineTexts blanks = [] := by
  induction blanks with
  | nil => rfl
  | cons c rest ih =>
    obtain ⟨hc, hrest⟩ := List.forall_mem_cons.mp h
    rw [lineTexts_cons_of_isPadding hc, ih hrest]

end Text

/-- At the start of a line, what the lines say may be read by itself. -/
theorem StartsLine.lineTexts_append {front : List Char} (h : StartsLine front) (back : List Char) :
    lineTexts (front ++ back) = lineTexts front ++ lineTexts back := by
  obtain rfl | ⟨earlier, rfl⟩ := h
  · rfl
  · have hempty : lineTexts ([] : List Char) = [] := rfl
    rw [List.append_assoc, List.singleton_append, lineTexts_append_lineFeed,
      lineTexts_append_lineFeed, hempty, List.append_nil]

/-- At the end of a line, what the lines say may be read by itself. -/
theorem EndsLine.lineTexts_append {back : List Char} (h : EndsLine back) (front : List Char) :
    lineTexts (front ++ back) = lineTexts front ++ lineTexts back := by
  have hempty : lineTexts ([] : List Char) = [] := rfl
  obtain rfl | ⟨later, rfl⟩ := h
  · rw [hempty, List.append_nil, List.append_nil]
  · rw [lineTexts_append_lineFeed, ← List.nil_append ('\n' :: later), lineTexts_append_lineFeed,
      hempty, List.nil_append]

/-- An addition to the layout keeps what the lines say. -/
theorem LayoutEdit.lineTexts_eq {cs cs' : List Char} (h : LayoutEdit cs cs') :
    lineTexts cs = lineTexts cs' := by
  cases h with
  | carriageReturn front back =>
    have hreturn : IsPadding '\r' := by decide
    rw [List.append_cons front '\r', lineTexts_append_lineFeed, lineTexts_append_lineFeed,
      lineTexts_append_of_isPadding hreturn]
  | indent back hfront hc =>
    rw [hfront.lineTexts_append, hfront.lineTexts_append, lineTexts_cons_of_isPadding hc]
  | trail front hback hc =>
    rw [List.append_cons, hback.lineTexts_append, hback.lineTexts_append,
      lineTexts_append_of_isPadding hc]
  | blankLine back hfront hblanks =>
    rw [hfront.lineTexts_append, lineTexts_append_lineFeed, hfront.lineTexts_append,
      lineTexts_of_isPadding hblanks, List.append_nil]
  | lastLine front hblanks =>
    rw [lineTexts_append_lineFeed, lineTexts_of_isPadding hblanks, List.append_nil]

/-- Texts of the same layout say the same. -/
theorem SameLayout.lineTexts_eq {cs cs' : List Char} (h : SameLayout cs cs') :
    lineTexts cs = lineTexts cs' := by
  induction h with
  | rel _ _ hedit => exact hedit.lineTexts_eq
  | refl _ => rfl
  | symm _ _ _ ih => exact ih.symm
  | trans _ _ _ _ _ ih ih' => exact ih.trans ih'

/-- Any number of lines of white space may come before a line. -/
theorem sameLayout_blankLines {front : List Char} (hfront : StartsLine front)
    {blanks : List (List Char)} (h : ∀ line ∈ blanks, ∀ c ∈ line, IsPadding c) (back : List Char) :
    SameLayout (front ++ back) (front ++ blanks.flatMap (· ++ ['\n']) ++ back) := by
  induction blanks generalizing back with
  | nil =>
    rw [List.flatMap_nil, List.append_nil]
    exact .refl _
  | cons line rest ih =>
    obtain ⟨hline, hrest⟩ := List.forall_mem_cons.mp h
    -- The first line of white space is added last, before the others.
    have hfirst : LayoutEdit (front ++ (rest.flatMap (· ++ ['\n']) ++ back))
        (front ++ line ++ '\n' :: (rest.flatMap (· ++ ['\n']) ++ back)) :=
      .blankLine _ hfront hline
    have hall : front ++ line ++ '\n' :: (rest.flatMap (· ++ ['\n']) ++ back) =
        front ++ (line :: rest).flatMap (· ++ ['\n']) ++ back := by
      simp only [List.flatMap_cons, List.append_assoc, List.cons_append, List.nil_append]
    rw [← List.append_assoc, hall] at hfirst
    exact (ih hrest back).trans _ _ _ (.rel _ _ hfirst)

/-! ### Spans -/

/-- The characters of a source that a span covers, if both its ends are between characters. -/
def Span.covered? (span : Span) (source : List Char) : Option (List Char) := do
  let before ← takeBytes? source span.start
  let through ← takeBytes? source span.stop
  return through.drop before.length

/-- A span covers what stands between its ends. -/
theorem Span.covered?_append (front text back : List Char) :
    covered? ⟨byteLength front, byteLength front + byteLength text⟩ (front ++ (text ++ back)) =
      some text := by
  have hthrough : takeBytes? (front ++ (text ++ back)) (byteLength front + byteLength text) =
      some (front ++ text) := by
    rw [← byteLength_append, ← List.append_assoc, takeBytes?_append]
  simp only [covered?, takeBytes?_append, hthrough, Option.bind_eq_bind, Option.bind_some,
    List.drop_left]
  rfl

/-- A text is what is left of it by trimming, with white space before and behind it. -/
theorem exists_eq_takeWhile_append_trim (cs : List Char) :
    ∃ trailing, cs = cs.takeWhile isBlank ++ (trim cs ++ trailing) ∧
      ∀ c ∈ trailing, isBlank c = true := by
  refine ⟨(trimStart cs).rtakeWhile isBlank, ?_, fun c hc ↦ List.mem_rtakeWhile_imp hc⟩
  have hstart : trim cs ++ (trimStart cs).rtakeWhile isBlank = trimStart cs :=
    List.rdropWhile_append_rtakeWhile
  rw [hstart]
  exact List.takeWhile_append_dropWhile.symm

namespace SourceLine

/-- The lines of consecutive pieces are what is left of them by trimming, and each has a span that
covers it. -/
theorem forall₂_ofPieces (front : List Char) (cuts : List (List Char)) :
    List.Forall₂
      (fun line text ↦ line.text = String.ofList text ∧
        line.span.covered? (front ++ joinLines cuts) = some text)
      (ofPieces (byteLength front) cuts) ((cuts.map trim).filter (!·.isEmpty)) := by
  induction cuts generalizing front with
  | nil => exact .nil
  | cons piece rest ih =>
    obtain ⟨back, hback⟩ : ∃ back, joinLines (piece :: rest) = piece ++ back := by
      cases rest with
      | nil => exact ⟨[], (List.append_nil piece).symm⟩
      | cons next later => exact ⟨'\n' :: joinLines (next :: later), rfl⟩
    -- The pieces after this one stand behind it and a line feed.
    have hlater : List.Forall₂
        (fun line text ↦ line.text = String.ofList text ∧
          line.span.covered? (front ++ joinLines (piece :: rest)) = some text)
        (ofPieces (byteLength front + byteLength piece + 1) rest)
        ((rest.map trim).filter (!·.isEmpty)) := by
      cases rest with
      | nil => exact .nil
      | cons next later =>
        have hbytes : byteLength (front ++ (piece ++ ['\n'])) =
            byteLength front + byteLength piece + 1 := by
          rw [byteLength_append, byteLength_append, ← Nat.add_assoc]
          rfl
        have hjoin : front ++ (piece ++ ['\n']) ++ joinLines (next :: later) =
            front ++ joinLines (piece :: next :: later) := by
          simp only [List.append_assoc, List.singleton_append]
          rfl
        have hrest := ih (front ++ (piece ++ ['\n']))
        rwa [hbytes, hjoin] at hrest
    rw [ofPieces, List.map_cons, List.filter_cons]
    by_cases hempty : (trim piece).isEmpty
    · simp only [hempty, if_true, Bool.not_true, Bool.false_eq_true, if_false]
      exact hlater
    · simp only [hempty, Bool.not_false, if_true]
      refine .cons ⟨rfl, ?_⟩ hlater
      obtain ⟨trailing, htrailing, -⟩ := exists_eq_takeWhile_append_trim piece
      have hsource : front ++ joinLines (piece :: rest) =
          front ++ piece.takeWhile isBlank ++ (trim piece ++ (trailing ++ back)) := by
        rw [hback]
        nth_rewrite 1 [htrailing]
        simp only [List.append_assoc]
      rw [hsource, ← byteLength_append]
      exact Span.covered?_append _ _ _

/-- The lines of a source are what its text says, and each has a span that covers it. -/
theorem forall₂_ofSource (source : String) :
    List.Forall₂
      (fun line text ↦ line.text = String.ofList text ∧
        line.span.covered? source.toList = some text)
      (ofSource source) (lineTexts source.toList) := by
  have hlines := forall₂_ofPieces [] (pieces source.toList)
  rwa [joinLines_pieces] at hlines

end SourceLine

/-! ### Sources of the same layout -/

/-- The line is the same line of another source, wherever it stands there. -/
structure Line.Moved (source source' : String) (line line' : Line) : Prop where
  directive : line'.directive = line.directive
  text : ∃ text, line.span.covered? source.toList = some text ∧
    line'.span.covered? source'.toList = some text

/-- The warning is the same warning in another source, for the same text wherever that stands. -/
structure Warning.Moved (source source' : String) (warning warning' : Warning) : Prop where
  message : warning'.message = warning.message
  sourceId : warning'.sourceId = warning.sourceId
  text : ∃ text, warning.span.covered? source.toList = some text ∧
    warning'.span.covered? source'.toList = some text

/-- Sources that say the same are read as the same lines. -/
theorem Script.forall₂_lines_parse {source source' : String}
    (h : lineTexts source.toList = lineTexts source'.toList) (sourceId : Nat) :
    List.Forall₂ (Line.Moved source source') (parse source sourceId).lines
      (parse source' sourceId).lines := by
  have hlines := SourceLine.forall₂_ofSource source
  rw [h] at hlines
  rw [parse, parse, List.forall₂_map_left_iff, List.forall₂_map_right_iff]
  apply (forall₂_of_common hlines (SourceLine.forall₂_ofSource source')).imp
  rintro line line' ⟨text, ⟨htext, hspan⟩, htext', hspan'⟩
  exact ⟨by rw [htext, htext'], text, hspan, hspan'⟩

/-- Lines that moved have the same directives. -/
theorem map_directive_of_moved {source source' : String} {lines lines' : List Line}
    (h : List.Forall₂ (Line.Moved source source') lines lines') :
    lines'.map (·.directive) = lines.map (·.directive) := by
  induction h with
  | nil => rfl
  | cons hline _ ih => rw [List.map_cons, List.map_cons, hline.directive, ih]

/-- Lines that moved are given the same warnings, which moved with them. -/
theorem forall₂_warningsFrom {source source' : String} {lines lines' : List Line}
    (h : List.Forall₂ (Line.Moved source source') lines lines') (sourceId : Nat)
    (before : Option Directive) :
    List.Forall₂ (Warning.Moved source source') (warningsFrom sourceId before lines)
      (warningsFrom sourceId before lines') := by
  induction h generalizing before with
  | nil => exact .nil
  | cons hline _ ih =>
    rw [warningsFrom, warningsFrom, Line.warning?, Line.warning?, hline.directive]
    apply List.rel_append _ (ih _)
    cases Directive.warningText? before _ with
    | none => exact .nil
    | some text => exact .cons ⟨rfl, rfl, hline.text⟩ .nil

/-- Sources of the same layout ask the sink and the markdown renderer for the same. Every run comes
to the same state, and stops with the same error or ends with the same registry and with warnings
that differ in nothing but where the text they point at stands. -/
theorem renderDialogue_of_sameLayout {source source' : String}
    (h : SameLayout source.toList source'.toList) (config : Config) :
    (∀ root, ((Script.parse source' 0).draw config root).requests =
      ((Script.parse source 0).draw config root).requests) ∧
    ∀ {σ : Type} (sink : Sink σ) (markdown : MarkdownRenderer σ) (context : MarkdownContext)
      (state : σ),
      let run := renderDialogue source config sink markdown context state
      let run' := renderDialogue source' config sink markdown context state
      run'.2 = run.2 ∧
        ((∃ error, run.1 = .error error ∧ run'.1 = .error error) ∨
          ∃ warnings warnings' registry,
            run.1 = .ok ⟨warnings, registry⟩ ∧ run'.1 = .ok ⟨warnings', registry⟩ ∧
            List.Forall₂ (Warning.Moved source source') warnings warnings') := by
  have hlines := Script.forall₂_lines_parse h.lineTexts_eq 0
  have hdirectives : (Script.parse source' 0).directives = (Script.parse source 0).directives :=
    map_directive_of_moved hlines
  have hdraw : config.drawDirectives (Script.parse source' 0).directives =
      config.drawDirectives (Script.parse source 0).directives :=
    congrArg config.drawDirectives hdirectives
  constructor
  · intro root
    rw [Script.requests_draw, Script.requests_draw, hdraw]
  · intro σ sink markdown context state run run'
    obtain ⟨hstate, hresult⟩ := Script.render_of_drawDirectives_eq hdraw sink markdown context state
    refine ⟨hstate, hresult.imp_right ?_⟩
    rintro ⟨hrun, hrun'⟩
    refine ⟨_, _, _, hrun, ?_, forall₂_warningsFrom hlines 0 none⟩
    rw [Script.outcome, hdirectives] at hrun'
    exact hrun'

/-- A message with a footer right after it, and another footer. -/
def denseSource : String := "<hi\n::bye\n::late"

/-- The same lines, with two blank lines before the footer, and white space around lines. -/
def looseSource : String := "<hi\r\n \u3000\n\n\t::bye\n::late \n"

/-- A line break becomes a line break of the other kind, two blank lines and white space, and the
last line gets white space and a line after it. -/
theorem sameLayout_loosened (first rest : List Char) :
    SameLayout (first ++ '\n' :: rest)
      (first ++ '\r' :: '\n' :: ' ' :: '\u3000' :: '\n' :: '\n' :: '\t' :: (rest ++ [' ', '\n'])) := by
  have hpadding : ∀ line ∈ [[' ', '\u3000'], []], ∀ c ∈ line, IsPadding c := by
    simp only [List.forall_mem_cons, List.not_mem_nil, false_implies, implies_true, and_true]
    decide
  let returned := first ++ ['\r', '\n']
  let separated := returned ++ [' ', '\u3000', '\n', '\n']
  have hreturn : LayoutEdit (first ++ '\n' :: rest) (returned ++ rest) := by
    simpa [returned] using LayoutEdit.carriageReturn first rest
  have hblanks : SameLayout (returned ++ rest) (separated ++ rest) := by
    have hstarts : StartsLine returned := .inr ⟨first ++ ['\r'], by simp [returned]⟩
    simpa [separated] using sameLayout_blankLines hstarts hpadding rest
  have hindent : LayoutEdit (separated ++ rest) (separated ++ '\t' :: rest) :=
    .indent rest (.inr ⟨returned ++ [' ', '\u3000', '\n'], by simp [separated]⟩) (by decide)
  have hlast : LayoutEdit (separated ++ '\t' :: rest) (separated ++ '\t' :: rest ++ ['\n']) :=
    .lastLine _ (List.forall_mem_nil _)
  have htrail : LayoutEdit (separated ++ '\t' :: rest ++ ['\n'])
      (separated ++ '\t' :: rest ++ [' ', '\n']) :=
    .trail _ (.inr ⟨[], rfl⟩) (by decide)
  have hall : SameLayout (first ++ '\n' :: rest) (separated ++ '\t' :: rest ++ [' ', '\n']) :=
    .trans _ _ _ (.rel _ _ hreturn) <| .trans _ _ _ hblanks <| .trans _ _ _ (.rel _ _ hindent) <|
      .trans _ _ _ (.rel _ _ hlast) (.rel _ _ htrail)
  simpa [returned, separated] using hall

/-- The layouts of the two sources are the same. -/
theorem sameLayout_looseSource : SameLayout denseSource.toList looseSource.toList :=
  sameLayout_loosened "<hi".toList "::bye\n::late".toList

/-- The footer still follows its message, and the warning still points at the other footer. -/
theorem renderDialogue_of_sameLayout_looseSource :
    let run := fun source ↦
      renderDialogue source .default ElementTree.sink (.plain ElementTree.sink) ⟨""⟩ .empty
    SameLayout denseSource.toList looseSource.toList ∧
      (run looseSource).2 = (run denseSource).2 ∧
      (run denseSource).2.forest.preorder.filterMap (·.content) = [.text "hi", .text "bye"] ∧
      ∃ warnings warnings' registry,
        (run denseSource).1 = .ok ⟨warnings, registry⟩ ∧
        (run looseSource).1 = .ok ⟨warnings', registry⟩ ∧
        List.Forall₂ (Warning.Moved denseSource looseSource) warnings warnings' ∧
        warnings.map (·.span) = [⟨10, 16⟩] ∧ warnings'.map (·.span) = [⟨18, 24⟩] := by
  intro run
  obtain ⟨-, hrender⟩ := renderDialogue_of_sameLayout sameLayout_looseSource .default
  obtain ⟨hstate, ⟨error, herror, -⟩ | ⟨warnings, warnings', registry, hrun, hrun', hmoved⟩⟩ :=
    hrender ElementTree.sink (.plain ElementTree.sink) ⟨""⟩ .empty
  · have hok : (run denseSource).1.isOk := by decide +kernel
    simp only [run, herror] at hok
    cases hok
  · have hspans : ((run denseSource).1.toOption.map fun outcome ↦
        outcome.warnings.map (·.span)) = some [⟨10, 16⟩] := by decide +kernel
    have hspans' : ((run looseSource).1.toOption.map fun outcome ↦
        outcome.warnings.map (·.span)) = some [⟨18, 24⟩] := by decide +kernel
    simp only [run, hrun, hrun'] at hspans hspans'
    exact ⟨sameLayout_looseSource, hstate, by decide +kernel, warnings, warnings', registry, hrun,
      hrun', hmoved, Option.some.inj hspans, Option.some.inj hspans'⟩

end Colloquy
