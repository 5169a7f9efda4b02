import Colloquy.Proofs.Joining
import Colloquy.Proofs.Layout
import Mathlib.Data.List.Chain
import Mathlib.Data.List.Sort

/-!
# Splitting a source into lines

`IsSplitting` says what the lines of a source are without saying how they are found: trimmed texts
that the source has at their spans, in order, with a line feed between one and the next, and nothing
but white space outside of them. The lines of a source are such a splitting, which is shown part by
part along the line feeds. And there is no other one: two visible characters are in one line exactly
when no line feed stands between them, so the lines of any two splittings start and stop at the same
characters.
-/

namespace Colloquy

open Text

/-! ### Characters at byte positions -/

namespace Text

/-- The character starts at the byte position. -/
def CharAt (cs : List Char) (position : Nat) (c : Char) : Prop :=
  ∃ before after, cs = before ++ c :: after ∧ byteLength before = position

variable {cs front back : List Char} {c d : Char} {position other : Nat}

theorem CharAt.mem (h : CharAt cs position c) : c ∈ cs := by
  obtain ⟨before, after, rfl, -⟩ := h
  exact List.mem_append_right before List.mem_cons_self

/-- A character ends where its text ends or before. -/
theorem CharAt.le_byteLength (h : CharAt cs position c) :
    position + c.utf8Size ≤ byteLength cs := by
  obtain ⟨before, after, rfl, rfl⟩ := h
  rw [byteLength_append, byteLength]
  omega

/-- A character of a joined text is one of the first text, or one of the second further on. -/
theorem charAt_append :
    CharAt (front ++ back) position c ↔
      CharAt front position c ∨
        ∃ rest, position = byteLength front + rest ∧ CharAt back rest c := by
  constructor
  · rintro ⟨before, after, happend, rfl⟩
    obtain ⟨more, rfl, hback⟩ | ⟨more, hfront, hmore⟩ := List.append_eq_append_iff.mp happend
    · exact .inr ⟨byteLength more, byteLength_append front more, more, after, hback, rfl⟩
    · cases more with
      | nil =>
        rw [List.append_nil] at hfront
        exact .inr ⟨0, by rw [hfront, Nat.add_zero], [], after, hmore.symm, rfl⟩
      | cons first rest =>
        obtain ⟨rfl, -⟩ := List.cons.inj hmore
        exact .inl ⟨before, rest, hfront, rfl⟩
  · rintro (⟨before, after, rfl, rfl⟩ | ⟨rest, rfl, before, after, rfl, rfl⟩)
    · exact ⟨before, after ++ back, by simp, rfl⟩
    · exact ⟨front ++ before, after, by simp, byteLength_append front before⟩

/-- A character of two texts with a line feed between them is one of either text or that line
feed. -/
theorem charAt_join :
    CharAt (front ++ '\n' :: back) position c ↔
      CharAt front position c ∨ (position = byteLength front ∧ c = '\n') ∨
        ∃ rest, position = rest + (byteLength front + 1) ∧ CharAt back rest c := by
  rw [List.append_cons, charAt_append, byteLength_append_lineFeed]
  constructor
  · rintro (hc | ⟨rest, rfl, hc⟩)
    · obtain hc | ⟨rest, rfl, before, after, hsingle, rfl⟩ := charAt_append.mp hc
      · exact .inl hc
      · obtain ⟨rfl, hcons⟩ | ⟨-, hnil⟩ := List.append_eq_singleton_iff.mp hsingle.symm
        · exact .inr (.inl ⟨rfl, (List.cons.inj hcons).1⟩)
        · cases hnil
    · exact .inr (.inr ⟨rest, Nat.add_comm .., hc⟩)
  · rintro (hc | ⟨rfl, rfl⟩ | ⟨rest, rfl, hc⟩)
    · exact .inl (charAt_append.mpr (.inl hc))
    · exact .inl ⟨front, [], rfl, rfl⟩
    · exact .inr ⟨rest, Nat.add_comm .., hc⟩

/-- Two characters of a text are the same one, or one starts where the other has ended. -/
theorem CharAt.apart (h : CharAt cs position c) (hother : CharAt cs other d) :
    (position = other ∧ c = d) ∨ position + c.utf8Size ≤ other ∨ other + d.utf8Size ≤ position := by
  obtain ⟨before, after, rfl, rfl⟩ := h
  obtain hbefore | ⟨rest, rfl, skipped, later, hskipped, rfl⟩ := charAt_append.mp hother
  · exact .inr (.inr hbefore.le_byteLength)
  · cases skipped with
    | nil => exact .inl ⟨rfl, (List.cons.inj hskipped).1⟩
    | cons first more =>
      obtain ⟨rfl, -⟩ := List.cons.inj hskipped
      rw [byteLength]
      omega

/-- Some characters take up some bytes. -/
theorem byteLength_pos (h : cs ≠ []) : 0 < byteLength cs := by
  cases cs with
  | nil => exact absurd rfl h
  | cons c rest =>
    have hsize := Char.utf8Size_pos c
    rw [byteLength]
    omega

/-- What is cut off fills the bytes that were asked for. -/
theorem exists_of_takeBytes? {count : Nat} (h : takeBytes? cs count = some front) :
    ∃ back, cs = front ++ back ∧ byteLength front = count := by
  fun_induction takeBytes? cs count generalizing front with
  | case1 cs =>
    cases h
    exact ⟨cs, rfl, rfl⟩
  | case2 => cases h
  | case3 c cs count hsize ih =>
    obtain ⟨rest, hrest, rfl⟩ := Option.map_eq_some_iff.mp h
    obtain ⟨back, rfl, hbytes⟩ := ih hrest
    refine ⟨back, rfl, ?_⟩
    rw [byteLength, hbytes]
    omega
  | case4 => cases h

end Text

namespace Span

variable {span : Span} {source text : List Char}

/-- The span holds the character that starts at a position. -/
def Holds (span : Span) (position : Nat) : Prop := span.start ≤ position ∧ position < span.stop

/-- A span that covers some text stands behind what comes before it and before the rest. -/
theorem exists_of_covered? (h : span.covered? source = some text) (hne : text ≠ []) :
    ∃ front back, source = front ++ (text ++ back) ∧
      span = ⟨byteLength front, byteLength front + byteLength text⟩ := by
  obtain ⟨front, hfront, hrest⟩ := Option.bind_eq_some_iff.mp h
  obtain ⟨through, hthrough, htext⟩ := Option.bind_eq_some_iff.mp hrest
  obtain ⟨behind, rfl, hstart⟩ := exists_of_takeBytes? hfront
  obtain ⟨back, hsource, hstop⟩ := exists_of_takeBytes? hthrough
  obtain rfl : through.drop front.length = text := Option.some.inj htext
  have hlength : front.length ≤ through.length := by
    by_contra hshort
    exact hne (List.drop_of_length_le (by omega))
  obtain ⟨more, rfl⟩ : front <+: through :=
    List.prefix_of_prefix_length_le ⟨behind, rfl⟩ ⟨back, hsource.symm⟩ hlength
  rw [List.drop_left]
  refine ⟨front, back, by rw [hsource, List.append_assoc], ?_⟩
  rw [← byteLength_append, hstart, hstop]

/-- A text may go on behind what a span covers. -/
theorem covered?_append_right (h : span.covered? source = some text) (hne : text ≠ [])
    (later : List Char) : span.covered? (source ++ later) = some text := by
  obtain ⟨front, back, rfl, rfl⟩ := exists_of_covered? h hne
  rw [List.append_assoc, List.append_assoc]
  exact covered?_append _ _ _

/-- A span moves with the text that it covers. -/
theorem covered?_shift (h : span.covered? source = some text) (hne : text ≠ [])
    (earlier : List Char) :
    (span.shift (byteLength earlier)).covered? (earlier ++ source) = some text := by
  obtain ⟨front, back, rfl, rfl⟩ := exists_of_covered? h hne
  have hshift : shift ⟨byteLength front, byteLength front + byteLength text⟩ (byteLength earlier) =
      ⟨byteLength (earlier ++ front), byteLength (earlier ++ front) + byteLength text⟩ := by
    simp only [shift, byteLength_append, Span.mk.injEq]
    omega
  rw [hshift, ← List.append_assoc]
  exact covered?_append _ _ _

end Span

namespace SourceLine

/-! ### Splittings -/

/-- A line feed of the source stands behind the one line and before the other. -/
def Separated (source : List Char) (line later : SourceLine) : Prop :=
  ∃ position, CharAt source position '\n' ∧
    line.span.stop ≤ position ∧ position < later.span.start

/-- The lines are a splitting of the source. -/
structure IsSplitting (source : List Char) (lines : List SourceLine) : Prop where
  /-- A line is what the source has at its span, whose ends lie between characters. -/
  covered : ∀ line ∈ lines, line.span.covered? source = some line.text.toList
  ne_nil : ∀ line ∈ lines, line.text.toList ≠ []
  onLine : ∀ line ∈ lines, '\n' ∉ line.text.toList
  trimmed : ∀ line ∈ lines, Trimmed line.text.toList
  /-- What is on no line is white space. -/
  blank : ∀ position c, CharAt source position c →
    (∀ line ∈ lines, ¬line.span.Holds position) → isBlank c = true
  /-- The spans go up and do not overlap. -/
  ordered : lines.Pairwise fun line later ↦
    line.span.start < later.span.start ∧ line.span.stop ≤ later.span.start
  /-- A line feed stands between a line and the next. -/
  separated : lines.IsChain (Separated source)

variable {source : List Char} {lines : List SourceLine} {line : SourceLine}

/-- A line stands between what comes before it and the rest of its source. -/
theorem IsSplitting.exists_eq (h : IsSplitting source lines) (hline : line ∈ lines) :
    ∃ front back, source = front ++ (line.text.toList ++ back) ∧
      line.span = ⟨byteLength front, byteLength front + byteLength line.text.toList⟩ :=
  Span.exists_of_covered? (h.covered line hline) (h.ne_nil line hline)

/-- A line takes up some bytes of its source. -/
theorem IsSplitting.bounds (h : IsSplitting source lines) (hline : line ∈ lines) :
    line.span.start < line.span.stop ∧ line.span.stop ≤ byteLength source := by
  obtain ⟨front, back, hsource, hspan⟩ := h.exists_eq hline
  have hpos := byteLength_pos (h.ne_nil line hline)
  rw [hspan, hsource, byteLength_append, byteLength_append]
  simp only
  omega

/-- A text without a line feed is one line, or none if it is white space. -/
theorem isSplitting_single {cs : List Char} (h : '\n' ∉ cs) : IsSplitting cs (ofText cs) := by
  obtain ⟨trailing, hcs, htrailing⟩ := exists_eq_takeWhile_append_trim cs
  have hleading : ∀ c ∈ cs.takeWhile isBlank, isBlank c = true :=
    fun c hc ↦ List.mem_takeWhile_imp hc
  rw [ofText, pieces_of_not_mem h, ofPieces, ofPieces, Nat.zero_add]
  split
  next hempty =>
    rw [List.isEmpty_iff.mp hempty, List.nil_append] at hcs
    refine ⟨by simp, by simp, by simp, by simp, ?_, .nil, .nil⟩
    intro position c hc _
    have hmem := hc.mem
    rw [hcs, List.mem_append] at hmem
    exact hmem.elim (hleading c) (htrailing c)
  next hempty =>
    simp only [List.isEmpty_iff] at hempty
    constructor
    · simp only [List.mem_singleton, forall_eq, String.toList_ofList]
      have hcovered := Span.covered?_append (cs.takeWhile isBlank) (trim cs) trailing
      rwa [← hcs] at hcovered
    · simpa using hempty
    · simpa using fun hmem ↦ h (mem_of_mem_trim hmem)
    · simpa using trimmed_trim cs
    · intro position c hc houtside
      have hnot := houtside _ List.mem_cons_self
      have hparts : CharAt (cs.takeWhile isBlank ++ (trim cs ++ trailing)) position c := by
        rwa [← hcs]
      obtain hstart | ⟨rest, rfl, hrest⟩ := charAt_append.mp hparts
      · exact hleading c hstart.mem
      · obtain htext | ⟨more, rfl, hend⟩ := charAt_append.mp hrest
        · have hsize := Char.utf8Size_pos c
          have hbytes := htext.le_byteLength
          simp only [Span.Holds] at hnot
          omega
        · exact htrailing c hend.mem
    · exact List.pairwise_singleton _ _
    · exact .singleton _

/-- What separates two lines does so whatever follows. -/
theorem Separated.append {line later : SourceLine} (h : Separated source line later)
    (more : List Char) : Separated (source ++ more) line later := by
  obtain ⟨position, hposition, hspans⟩ := h
  exact ⟨position, charAt_append.mpr (.inl hposition), hspans⟩

/-- What separates two lines moves with them. -/
theorem Separated.behind {back : List Char} {line later : SourceLine}
    (h : Separated back line later) (front : List Char) :
    Separated (front ++ '\n' :: back) (line.shift (byteLength front + 1))
      (later.shift (byteLength front + 1)) := by
  obtain ⟨position, hposition, hspans⟩ := h
  refine ⟨_, charAt_join.mpr (.inr (.inr ⟨position, rfl, hposition⟩)), ?_⟩
  simp only [shift_start, shift_stop]
  omega

/-- Splittings of two texts make up a splitting of the joined text. -/
theorem IsSplitting.join {front back : List Char} {first later : List SourceLine}
    (hfirst : IsSplitting front first) (hlater : IsSplitting back later) :
    IsSplitting (front ++ '\n' :: back)
      (first ++ later.map (·.shift (byteLength front + 1))) := by
  constructor
  · rw [List.forall_mem_append, List.forall_mem_map]
    constructor
    · intro line hline
      exact Span.covered?_append_right (hfirst.covered line hline) (hfirst.ne_nil line hline) _
    · intro line hline
      rw [List.append_cons, ← byteLength_append_lineFeed]
      exact Span.covered?_shift (hlater.covered line hline) (hlater.ne_nil line hline) _
  · rw [List.forall_mem_append, List.forall_mem_map]
    exact ⟨hfirst.ne_nil, hlater.ne_nil⟩
  · rw [List.forall_mem_append, List.forall_mem_map]
    exact ⟨hfirst.onLine, hlater.onLine⟩
  · rw [List.forall_mem_append, List.forall_mem_map]
    exact ⟨hfirst.trimmed, hlater.trimmed⟩
  · intro position c hc houtside
    rw [List.forall_mem_append, List.forall_mem_map] at houtside
    obtain hfront | ⟨-, rfl⟩ | ⟨rest, rfl, hback⟩ := charAt_join.mp hc
    · exact hfirst.blank position c hfront houtside.1
    · decide
    · apply hlater.blank rest c hback
      intro line hline hholds
      apply houtside.2 line hline
      simp only [Span.Holds, shift_start, shift_stop] at hholds ⊢
      omega
  · rw [List.pairwise_append, List.pairwise_map]
    refine ⟨hfirst.ordered, ?_, ?_⟩
    · apply hlater.ordered.imp
      intro line next hspans
      simp only [shift_start, shift_stop]
      omega
    · intro line hline next hnext
      obtain ⟨other, hother, rfl⟩ := List.mem_map.mp hnext
      have hbounds := hfirst.bounds hline
      rw [shift_start]
      omega
  · rw [List.isChain_append, List.isChain_map]
    refine ⟨hfirst.separated.imp fun _ _ h ↦ h.append _,
      hlater.separated.imp fun _ _ h ↦ h.behind front, ?_⟩
    -- The line feed of the join stands between the last line of the one and the first of the other.
    intro line hline next hnext
    obtain ⟨other, hother, rfl⟩ := List.mem_map.mp (List.mem_of_mem_head? hnext)
    have hbounds := hfirst.bounds (List.mem_of_mem_getLast? hline)
    refine ⟨byteLength front, charAt_join.mpr (.inr (.inl ⟨rfl, rfl⟩)), hbounds.2, ?_⟩
    rw [shift_start]
    omega

/-- The lines of a text are a splitting of it. -/
theorem isSplitting_ofText (cs : List Char) : IsSplitting cs (ofText cs) :=
  ofText_induction (fun _ ↦ isSplitting_single) (fun _ _ ↦ .join) cs

/-! ### Two splittings of one source -/

variable {others : List SourceLine} {other : SourceLine} {position : Nat} {c : Char}

/-- The characters that a line holds are those of its text. -/
theorem IsSplitting.mem_text (h : IsSplitting source lines) (hline : line ∈ lines)
    (hc : CharAt source position c) (hholds : line.span.Holds position) :
    c ∈ line.text.toList := by
  obtain ⟨front, back, rfl, hspan⟩ := h.exists_eq hline
  simp only [hspan, Span.Holds] at hholds
  obtain hfront | ⟨rest, rfl, hrest⟩ := charAt_append.mp hc
  · have hsize := Char.utf8Size_pos c
    have hbytes := hfront.le_byteLength
    omega
  · obtain htext | ⟨more, rfl, -⟩ := charAt_append.mp hrest
    · exact htext.mem
    · omega

/-- A line feed stands before a line or behind it. -/
theorem IsSplitting.lineFeed_outside (h : IsSplitting source lines) (hline : line ∈ lines)
    (hfeed : CharAt source position '\n') :
    position < line.span.start ∨ line.span.stop ≤ position := by
  by_contra hinside
  have hholds : line.span.Holds position := by
    simp only [Span.Holds]
    omega
  exact h.onLine line hline (h.mem_text hline hfeed hholds)

/-- A line starts with a visible character. -/
theorem IsSplitting.exists_first (h : IsSplitting source lines) (hline : line ∈ lines) :
    ∃ c, CharAt source line.span.start c ∧ isBlank c = false := by
  obtain ⟨front, back, hsource, hspan⟩ := h.exists_eq hline
  obtain ⟨c, rest, htext⟩ := List.exists_cons_of_ne_nil (h.ne_nil line hline)
  refine ⟨c, ⟨front, rest ++ back, ?_, ?_⟩, (h.trimmed line hline).head c ?_⟩
  · rw [hsource, htext, List.cons_append]
  · rw [hspan]
  · rw [htext, List.head?_cons]
    rfl

/-- A line ends with a visible character. -/
theorem IsSplitting.exists_last (h : IsSplitting source lines) (hline : line ∈ lines) :
    ∃ position c, CharAt source position c ∧ isBlank c = false ∧
      line.span.start ≤ position ∧ position + c.utf8Size = line.span.stop := by
  obtain ⟨front, back, hsource, hspan⟩ := h.exists_eq hline
  obtain ⟨init, c, htext⟩ : ∃ init c, line.text.toList = init ++ [c] :=
    ⟨_, _, (List.dropLast_concat_getLast (h.ne_nil line hline)).symm⟩
  refine ⟨byteLength (front ++ init), c, ⟨front ++ init, back, ?_, rfl⟩, ?_, ?_, ?_⟩
  · rw [hsource, htext]
    simp
  · apply (h.trimmed line hline).last c
    rw [htext, List.getLast?_concat]
    rfl
  · rw [hspan, byteLength_append]
    exact Nat.le_add_right ..
  · rw [hspan, htext, byteLength_append, byteLength_append, Nat.add_assoc]
    rfl

/-- A visible character is on some line. -/
theorem IsSplitting.exists_holds (h : IsSplitting source lines) (hc : CharAt source position c)
    (hvisible : isBlank c = false) : ∃ line ∈ lines, line.span.Holds position := by
  by_contra hnone
  have hblank := h.blank position c hc fun line hline hholds ↦ hnone ⟨line, hline, hholds⟩
  simp [hvisible] at hblank

/-- A line feed stands between any two lines, not only between a line and the next. -/
theorem IsSplitting.pairwise_separated (h : IsSplitting source lines) :
    lines.Pairwise (Separated source) := by
  have hordered := h.ordered
  have hseparated := h.separated
  clear h
  induction lines with
  | nil => exact .nil
  | cons line rest ih =>
    rw [List.pairwise_cons] at hordered ⊢
    cases rest with
    | nil => simp
    | cons next later =>
      obtain ⟨hnext, hchain⟩ := List.isChain_cons_cons.mp hseparated
      refine ⟨?_, ih hordered.2 hchain⟩
      -- The line feed before the next line also stands before all that come behind that.
      obtain ⟨position, hfeed, hstop, hstart⟩ := hnext
      have hlater := (List.pairwise_cons.mp hordered.2).1
      intro other hother
      refine ⟨position, hfeed, hstop, ?_⟩
      obtain rfl | hmem := List.mem_cons.mp hother
      · exact hstart
      · exact hstart.trans (hlater other hmem).1

/-- Two lines of a splitting are the same one, or a line feed stands between them. -/
theorem IsSplitting.eq_or_separated (h : IsSplitting source lines) (hline : line ∈ lines)
    (hother : other ∈ lines) :
    line = other ∨ Separated source line other ∨ Separated source other line := by
  have : Std.Symm fun line other ↦ Separated source line other ∨ Separated source other line :=
    ⟨fun _ _ ↦ Or.symm⟩
  have hpairwise : lines.Pairwise fun line other ↦
      Separated source line other ∨ Separated source other line :=
    h.pairwise_separated.imp Or.inl
  by_cases heq : line = other
  · exact .inl heq
  · exact .inr (hpairwise.forall hline hother heq)

/-- No two lines hold the same position. -/
theorem IsSplitting.eq_of_holds (h : IsSplitting source lines) (hline : line ∈ lines)
    (hother : other ∈ lines) (hholds : line.span.Holds position)
    (hholds' : other.span.Holds position) : line = other := by
  simp only [Span.Holds] at hholds hholds'
  obtain heq | ⟨feed, -, hspans⟩ | ⟨feed, -, hspans⟩ := h.eq_or_separated hline hother
  · exact heq
  · omega
  · omega

/-- What stands on one line of a splitting stands on one line of any other. Its first and its last
character are visible and so are on lines of the other, and these lines are the same one since no
line feed stands between the two characters. -/
theorem IsSplitting.exists_within (h : IsSplitting source lines)
    (hothers : IsSplitting source others) (hline : line ∈ lines) :
    ∃ other ∈ others, other.span.start ≤ line.span.start ∧ line.span.stop ≤ other.span.stop := by
  obtain ⟨c, hfirst, hvisible⟩ := h.exists_first hline
  obtain ⟨position, d, hlast, hvisible', hle, hstop⟩ := h.exists_last hline
  obtain ⟨other, hother, hholds⟩ := hothers.exists_holds hfirst hvisible
  obtain ⟨final, hfinal, hholds'⟩ := hothers.exists_holds hlast hvisible'
  have hsize := Char.utf8Size_pos d
  simp only [Span.Holds] at hholds hholds'
  obtain rfl | ⟨feed, hfeed, hspans⟩ | ⟨feed, hfeed, hspans⟩ :=
    hothers.eq_or_separated hother hfinal
  · obtain ⟨endpoint, e, hend, -, -, hstop'⟩ := hothers.exists_last hother
    refine ⟨other, hother, hholds.1, ?_⟩
    obtain ⟨rfl, rfl⟩ | hbefore | hbehind := hlast.apart hend
    · omega
    · omega
    · omega
  · -- The line feed would be on the line.
    have houtside := h.lineFeed_outside hline hfeed
    omega
  · omega

/-- A line of a splitting is a line of any other. -/
theorem IsSplitting.mem_of_mem (h : IsSplitting source lines) (hothers : IsSplitting source others)
    (hline : line ∈ lines) : line ∈ others := by
  obtain ⟨other, hother, hstart, hstop⟩ := h.exists_within hothers hline
  obtain ⟨back, hback, hstart', hstop'⟩ := hothers.exists_within h hother
  have hbounds := h.bounds hline
  obtain rfl : line = back := by
    apply h.eq_of_holds hline hback ⟨le_refl line.span.start, hbounds.1⟩
    simp only [Span.Holds]
    omega
  -- Each line stands within the other, so they have the same span and what the source has there.
  obtain ⟨text, start, stop⟩ := line
  obtain ⟨text', start', stop'⟩ := other
  obtain ⟨rfl, rfl⟩ : start = start' ∧ stop = stop' :=
    ⟨Nat.le_antisymm hstart' hstart, Nat.le_antisymm hstop hstop'⟩
  have htext : some text.toList = some text'.toList :=
    (h.covered _ hline).symm.trans (hothers.covered _ hother)
  obtain rfl := String.toList_inj.mp (Option.some.inj htext)
  exact hother

/-- The lines of a source are its one and only splitting: trimmed texts in order with exact byte
spans, a line feed between one and the next, and nothing but white space outside of them. -/
theorem ofSource_eq_iff (source : String) (lines : List SourceLine) :
    ofSource source = lines ↔ IsSplitting source.toList lines := by
  constructor
  · rintro rfl
    exact isSplitting_ofText source.toList
  · intro h
    have hofSource : IsSplitting source.toList (ofSource source) :=
      isSplitting_ofText source.toList
    let Before (line other : SourceLine) : Prop := line.span.start < other.span.start
    have : Std.Irrefl Before := ⟨fun line ↦ Nat.lt_irrefl line.span.start⟩
    have : Std.Antisymm Before := ⟨fun _ _ hlt hgt ↦ absurd hlt (Nat.lt_asymm hgt)⟩
    apply List.Subset.antisymm_of_pairwise (r := Before)
    · exact hofSource.ordered.imp And.left
    · exact h.ordered.imp And.left
    · exact fun _ ↦ hofSource.mem_of_mem h
    · exact fun _ ↦ h.mem_of_mem hofSource

example : ofSource "\u2003a\u00a0\rb\u3000\r\n\n c\r" =
    [⟨"a\u00a0\rb", ⟨3, 8⟩⟩, ⟨"c", ⟨15, 16⟩⟩] := by decide +kernel

end SourceLine
end Colloquy
