import Colloquy.Proofs.Grammar
import Colloquy.Proofs.Lowering
import Colloquy.Script

/-!
# Writing directives

A directive can be written as a line, and directives as a block of lines. A directive that parsing
gives is in normal form: its payload stays on its line, is trimmed where its kind trims it, and so
on. Directives in normal form are read back from the lines written for them, each with the bytes of
its line, so nothing is lost between a block and its directives.
-/

namespace Colloquy

open Text

/-! ### Lines -/

/-- The characters are those of a line of a block: they hold no line feed, trimming leaves them as
they are, and there is one at least. -/
structure IsLine (line : List Char) : Prop where
  onLine : '\n' ∉ line
  trim_eq : trim line = line
  ne_nil : line ≠ []

namespace IsLine

variable {front text : List Char}

/-- A line may go on with a text that stays on it and does not end in white space. -/
theorem append (hfront : IsLine front) (honLine : '\n' ∉ text) (hend : trimEnd text = text) :
    IsLine (front ++ text) where
  onLine := by
    rw [List.mem_append, not_or]
    exact ⟨hfront.onLine, honLine⟩
  trim_eq := by
    have hends := trimEnd_eq_self_iff.mp hend
    exact trim_eq_self_iff.mpr ((trim_eq_self_iff.mp hfront.trim_eq).append hfront.ne_nil hends)
  ne_nil := List.append_ne_nil_of_left_ne_nil hfront.ne_nil text

/-- What a line goes on with stays on it. -/
theorem onLine_of_append (h : IsLine (front ++ text)) : '\n' ∉ text :=
  fun hmem ↦ h.onLine (List.mem_append_right front hmem)

/-- What a line goes on with does not end in white space. -/
theorem trimEnd_of_append (h : IsLine (front ++ text)) : trimEnd text = text := by
  rw [trimEnd_eq_self_iff]
  intro c hc
  apply (trim_eq_self_iff.mp h.trim_eq).last
  rw [List.getLast?_append, hc]
  rfl

end IsLine

/-- A trimmed piece of a source that is not empty is a line. -/
theorem SourceLine.isLine_of_mem_ofPieces {offset : Nat} {cuts : List (List Char)}
    (hcuts : ∀ piece ∈ cuts, '\n' ∉ piece) {line : SourceLine}
    (h : line ∈ SourceLine.ofPieces offset cuts) : IsLine line.text.toList := by
  induction cuts generalizing offset with
  | nil => cases h
  | cons piece rest ih =>
    have hrest := fun other hother ↦ hcuts other (List.mem_cons_of_mem piece hother)
    rw [ofPieces] at h
    split at h
    next => exact ih hrest h
    next hempty =>
      obtain rfl | hlater := List.mem_cons.mp h
      · rw [String.toList_ofList]
        exact ⟨fun hmem ↦ hcuts piece List.mem_cons_self (mem_of_mem_trim hmem),
          trim_eq_self_iff.mpr (trimmed_trim piece), fun hnil ↦ hempty (List.isEmpty_iff.mpr hnil)⟩
      · exact ih hrest hlater

/-- Every line of a source is a line. -/
theorem SourceLine.isLine_of_mem_ofSource {source : String} {line : SourceLine}
    (h : line ∈ SourceLine.ofSource source) : IsLine line.text.toList :=
  isLine_of_mem_ofPieces (fun _ ↦ not_mem_of_mem_pieces) h

namespace Directive

/-! ### Normal forms -/

/-- The line for a directive. -/
def write : Directive → String
  | .title side name identity => side.name ++ identity.elim "" ("-" ++ ·) ++ ":" ++ name
  | .footerDefault side content => side.name ++ "Footer:" ++ content
  | .setting kind value => kind.keyword ++ ":" ++ value
  | .delimiter => "-"
  | .comment content => "#" ++ content
  | .message side content => String.singleton side.operator ++ content
  | .footerAttachment content => "::" ++ content
  | .unparsed content => content

/-- The text has no line feed, and trimming leaves it as it is. -/
def IsTidy (text : String) : Prop := '\n' ∉ text.toList ∧ trim text.toList = text.toList

/-- The text has no line feed, and trimming its end leaves it as it is. -/
def EndsTidy (text : String) : Prop := '\n' ∉ text.toList ∧ trimEnd text.toList = text.toList

/-- The directive is as parsing leaves it. -/
def IsNormal : Directive → Prop
  | .title _ name identity => IsTidy name ∧ IsIdentity identity
  | .footerDefault _ content => IsTidy content
  | .setting kind value =>
    IsTidy value ∧ (kind.lowercasesValue = true → lowercase value.toList = value.toList)
  | .delimiter => True
  | .comment content => EndsTidy content
  | .message _ content => IsTidy content
  | .footerAttachment content => EndsTidy content
  | .unparsed content => IsTidy content ∧ content ≠ "" ∧ classify content = .unparsed content

instance (text : String) : Decidable (IsTidy text) :=
  inferInstanceAs (Decidable ('\n' ∉ text.toList ∧ trim text.toList = text.toList))

instance (text : String) : Decidable (EndsTidy text) :=
  inferInstanceAs (Decidable ('\n' ∉ text.toList ∧ trimEnd text.toList = text.toList))

instance : DecidablePred IsNormal
  | .title _ name identity => inferInstanceAs (Decidable (IsTidy name ∧ IsIdentity identity))
  | .footerDefault _ content => inferInstanceAs (Decidable (IsTidy content))
  | .setting kind value => inferInstanceAs (Decidable (IsTidy value ∧
      (kind.lowercasesValue = true → lowercase value.toList = value.toList)))
  | .delimiter => .isTrue trivial
  | .comment content => inferInstanceAs (Decidable (EndsTidy content))
  | .message _ content => inferInstanceAs (Decidable (IsTidy content))
  | .footerAttachment content => inferInstanceAs (Decidable (EndsTidy content))
  | .unparsed content => inferInstanceAs (Decidable (IsTidy content ∧ content ≠ "" ∧
      classify content = .unparsed content))

/-- A tidy text has a tidy end. -/
theorem IsTidy.endsTidy {text : String} (h : IsTidy text) : EndsTidy text :=
  ⟨h.1, trimEnd_eq_self_iff.mpr (trim_eq_self_iff.mp h.2).last⟩

/-- A tidy text is its own trimmed payload. -/
theorem IsTidy.trimmed_eq {text : String} (h : IsTidy text) : trimmed text.toList = text := by
  rw [trimmed, h.2, String.ofList_toList]

/-- A trimmed payload of one line is tidy. -/
theorem isTidy_trimmed {text : List Char} (h : '\n' ∉ text) : IsTidy (trimmed text) := by
  rw [IsTidy, trimmed, String.toList_ofList]
  exact ⟨fun hmem ↦ h (mem_of_mem_trim hmem), trim_eq_self_iff.mpr (trimmed_trim text)⟩

/-- The widths are the settings that keep the case of their values. -/
theorem valueOf_eq (kind : Setting) (text : List Char) :
    valueOf kind text = if kind.lowercasesValue then String.ofList (lowercase (trim text))
      else trimmed text := by
  cases kind <;> rfl

/-- The value of a setting on one line is tidy and keeps to the case of the setting. -/
theorem isNormal_setting_valueOf (kind : Setting) {text : List Char} (h : '\n' ∉ text) :
    (Directive.setting kind (valueOf kind text)).IsNormal := by
  have htidy := isTidy_trimmed h
  have hlower : IsTidy (String.ofList (lowercase (trim text))) ∧
      lowercase (lowercase (trim text)) = lowercase (trim text) := by
    rw [IsTidy, String.toList_ofList]
    exact ⟨⟨not_mem_lowercase fun hmem ↦ h (mem_of_mem_trim hmem),
      trim_eq_self_iff.mpr (trimmed_trim text).lowercase⟩, lowercase_lowercase _⟩
  rw [IsNormal, valueOf_eq]
  split
  next =>
    rw [String.toList_ofList]
    exact ⟨hlower.1, fun _ ↦ hlower.2⟩
  next hkept => exact ⟨htidy, fun hlowers ↦ absurd hlowers hkept⟩

/-- A directive that a line fits is in normal form. -/
theorem isNormal_of_fits {directive : Directive} {line : List Char} (h : directive.Fits line)
    (hline : IsLine line) : directive.IsNormal := by
  cases h with
  | title hhead hidentity honLine => exact ⟨isTidy_trimmed honLine, hidentity⟩
  | footerDefault hhead honLine => exact isTidy_trimmed honLine
  | @setting kind head text hhead =>
    apply isNormal_setting_valueOf
    rw [List.append_cons] at hline
    exact hline.onLine_of_append
  | hyphen => trivial
  | delimiter => trivial
  | @comment text =>
    rw [IsNormal, EndsTidy, String.toList_ofList]
    have hline : IsLine (['#'] ++ text) := hline
    exact ⟨hline.onLine_of_append, hline.trimEnd_of_append⟩
  | @message side text =>
    have hline : IsLine ([side.operator] ++ text) := hline
    exact isTidy_trimmed hline.onLine_of_append
  | @footerAttachment text =>
    rw [IsNormal, EndsTidy, String.toList_ofList]
    have hline : IsLine ([':', ':'] ++ text) := hline
    exact ⟨hline.onLine_of_append, hline.trimEnd_of_append⟩

/-- A line is classified as a directive in normal form. -/
theorem isNormal_classify {line : String} (hline : IsLine line.toList) :
    (classify line).IsNormal := by
  rcases fits_classify_or line with hfits | ⟨hunparsed, -⟩
  · exact isNormal_of_fits hfits hline
  · rw [hunparsed]
    have hne : line ≠ "" := by
      rintro rfl
      exact hline.ne_nil rfl
    exact ⟨⟨hline.onLine, hline.trim_eq⟩, hne, hunparsed⟩

/-! ### Written lines -/

/-- The characters of a written title. -/
theorem toList_write_title (side : Side) (name : String) (identity : Option String) :
    (Directive.title side name identity).write.toList =
      side.name.toList ++ (writtenIdentity identity ++ ':' :: name.toList) := by
  cases identity <;> simp [write, writtenIdentity]

/-- Digits and a hyphen are no line feeds. -/
theorem not_mem_writtenIdentity {identity : Option String} (h : IsIdentity identity) :
    '\n' ∉ writtenIdentity identity := by
  cases identity with
  | none => exact List.not_mem_nil
  | some digits =>
    rw [writtenIdentity, List.mem_cons, not_or]
    exact ⟨by decide, fun hmem ↦ absurd (List.all_eq_true.mp (h digits rfl).2 _ hmem) (by decide)⟩

/-- A directive in normal form is written as a line. -/
theorem isLine_write {directive : Directive} (h : directive.IsNormal) :
    IsLine directive.write.toList := by
  cases directive with
  | title side name identity =>
    obtain ⟨hname, hidentity⟩ := h
    have hside : IsLine side.name.toList := by
      cases side <;> exact ⟨by decide, rfl, by decide⟩
    have honLine : '\n' ∉ writtenIdentity identity ++ [':'] := by
      rw [List.mem_append, not_or]
      exact ⟨not_mem_writtenIdentity hidentity, by decide⟩
    have hcolon : trimEnd (writtenIdentity identity ++ [':']) =
        writtenIdentity identity ++ [':'] := by
      rw [trimEnd_eq_self_iff, List.getLast?_concat]
      rintro _ ⟨⟩
      decide
    rw [toList_write_title, List.append_cons, ← List.append_assoc]
    exact (hside.append honLine hcolon).append hname.1 hname.endsTidy.2
  | footerDefault side content =>
    have hfront : IsLine (side.name ++ "Footer:").toList := by
      cases side <;> exact ⟨by decide, rfl, by decide⟩
    rw [write, String.toList_append]
    exact hfront.append h.1 (IsTidy.endsTidy h).2
  | setting kind value =>
    have hfront : IsLine (kind.keyword ++ ":").toList := by
      cases kind <;> exact ⟨by decide, rfl, by decide⟩
    rw [write, String.toList_append]
    exact hfront.append h.1.1 h.1.endsTidy.2
  | delimiter => exact ⟨by decide, rfl, by decide⟩
  | comment content =>
    have hfront : IsLine "#".toList := ⟨by decide, rfl, by decide⟩
    rw [write, String.toList_append]
    exact hfront.append h.1 h.2
  | message side content =>
    have hfront : IsLine (String.singleton side.operator).toList := by
      cases side <;> exact ⟨by decide, rfl, by decide⟩
    rw [write, String.toList_append]
    exact hfront.append h.1 (IsTidy.endsTidy h).2
  | footerAttachment content =>
    have hfront : IsLine "::".toList := ⟨by decide, rfl, by decide⟩
    rw [write, String.toList_append]
    exact hfront.append h.1 h.2
  | unparsed content =>
    obtain ⟨htidy, hne, -⟩ := h
    exact ⟨htidy.1, htidy.2, fun hnil ↦ hne (String.toList_eq_nil_iff.mp hnil)⟩

/-- A directive in normal form, unless it is unparsed, has the shape of its line. -/
theorem fits_write {directive : Directive} (h : directive.IsNormal)
    (hparsed : ∀ content, directive ≠ .unparsed content) :
    directive.Fits directive.write.toList := by
  cases directive with
  | title side name identity =>
    obtain ⟨hname, hidentity⟩ := h
    have hword : side.name ∈ (Heading.title side).words := by cases side <;> decide
    have hfits := Fits.title ⟨_, hword, rfl⟩ hidentity hname.1
    rwa [hname.trimmed_eq, ← toList_write_title] at hfits
  | footerDefault side content =>
    have hword : side.name ++ "Footer" ∈ (Heading.footer side).words := by cases side <;> decide
    have hfits := Fits.footerDefault ⟨_, hword, rfl⟩ h.1
    rw [IsTidy.trimmed_eq h] at hfits
    simpa [write] using hfits
  | setting kind value =>
    obtain ⟨htidy, hlower⟩ := h
    have hvalue : valueOf kind value.toList = value := by
      rw [valueOf_eq]
      split
      next hlowers => rw [htidy.2, hlower hlowers, String.ofList_toList]
      next => exact htidy.trimmed_eq
    have hfits : (Directive.setting kind (valueOf kind value.toList)).Fits
        (kind.keyword.toList ++ ':' :: value.toList) :=
      .setting ⟨_, List.mem_singleton_self kind.keyword, rfl⟩
    rw [hvalue] at hfits
    simpa [write] using hfits
  | delimiter => exact .hyphen
  | comment content =>
    have hfits : (Directive.comment (String.ofList content.toList)).Fits ('#' :: content.toList) :=
      .comment
    simpa [write] using hfits
  | message side content =>
    have hfits : (Directive.message side (trimmed content.toList)).Fits
        (side.operator :: content.toList) := .message
    rw [IsTidy.trimmed_eq h] at hfits
    simpa [write] using hfits
  | footerAttachment content =>
    have hfits : (Directive.footerAttachment (String.ofList content.toList)).Fits
        (':' :: ':' :: content.toList) := .footerAttachment
    simpa [write] using hfits
  | unparsed content => exact absurd rfl (hparsed content)

/-- A directive in normal form is read back from its line. -/
theorem classify_write {directive : Directive} (h : directive.IsNormal) :
    classify directive.write = directive := by
  by_cases hunparsed : ∃ content, directive = .unparsed content
  · obtain ⟨content, rfl⟩ := hunparsed
    exact h.2.2
  · exact classify_of_fits (fits_write h fun content heq ↦ hunparsed ⟨content, heq⟩)

end Directive

/-! ### Written blocks -/

/-- The block of the lines for some directives. -/
def writeLines (directives : List Directive) : String :=
  "\n".intercalate (directives.map Directive.write)

/-- The directives with the bytes that their lines take up, the first of which starts at byte
`offset`. A line feed stands between two lines. -/
def linesFrom (offset : Nat) : List Directive → List Line
  | [] => []
  | directive :: rest =>
    let stop := offset + byteLength directive.write.toList
    ⟨directive, ⟨offset, stop⟩⟩ :: linesFrom (stop + 1) rest

/-- The characters of a written block. -/
theorem toList_writeLines (directives : List Directive) :
    (writeLines directives).toList = joinLines (directives.map (·.write.toList)) := by
  rw [writeLines, String.toList_intercalate, List.map_map, joinLines_eq_intercalate]
  rfl

/-- Lines that are written for directives in normal form are read where they stand. -/
theorem map_ofPieces_write {directives : List Directive} (h : ∀ d ∈ directives, d.IsNormal)
    (offset : Nat) :
    (SourceLine.ofPieces offset (directives.map (·.write.toList))).map
      (fun line ↦ (⟨.classify line.text, line.span⟩ : Line)) = linesFrom offset directives := by
  induction directives generalizing offset with
  | nil => rfl
  | cons directive rest ih =>
    have hnormal := h directive List.mem_cons_self
    have hline := Directive.isLine_write hnormal
    have hblank := (trim_eq_self_iff.mp hline.trim_eq).takeWhile_isBlank
    have hne : ¬(trim directive.write.toList).isEmpty = true := by
      rw [hline.trim_eq, List.isEmpty_iff]
      exact hline.ne_nil
    rw [List.map_cons, SourceLine.ofPieces, if_neg hne, List.map_cons, hline.trim_eq, hblank,
      String.ofList_toList, Directive.classify_write hnormal,
      ih fun other hother ↦ h other (List.mem_cons_of_mem directive hother)]
    rfl

/-- Directives in normal form are parsed from the block of their lines. -/
theorem parse_writeLines_of_isNormal {directives : List Directive}
    (h : ∀ d ∈ directives, d.IsNormal) (sourceId : Nat) :
    Script.parse (writeLines directives) sourceId = ⟨linesFrom 0 directives, sourceId⟩ := by
  have hpieces : directives ≠ [] →
      pieces (writeLines directives).toList = directives.map (·.write.toList) := by
    intro hne
    rw [toList_writeLines]
    apply pieces_joinLines (by simpa using hne)
    intro line hline
    obtain ⟨directive, hmem, rfl⟩ := List.mem_map.mp hline
    exact (Directive.isLine_write (h directive hmem)).onLine
  cases directives with
  | nil => rfl
  | cons directive rest =>
    rw [Script.parse, SourceLine.ofSource, hpieces (List.cons_ne_nil _ _), map_ofPieces_write h]

/-- Directives that are in normal form are not lost. -/
theorem directives_linesFrom (offset : Nat) (directives : List Directive) :
    (linesFrom offset directives).map (·.directive) = directives := by
  induction directives generalizing offset with
  | nil => rfl
  | cons directive rest ih => exact congrArg (directive :: ·) (ih _)

/-- Writing directives and parsing them is lossless. From the block of directives in normal form
exactly these are parsed, each where its line stands; and the directives that are parsed from any
source are in normal form, so they are parsed again from the block that is written for them. -/
theorem parse_writeLines (sourceId : Nat) :
    (∀ directives : List Directive, (∀ directive ∈ directives, directive.IsNormal) →
      Script.parse (writeLines directives) sourceId = ⟨linesFrom 0 directives, sourceId⟩) ∧
    ∀ source, let directives := (Script.parse source sourceId).directives
      (∀ directive ∈ directives, directive.IsNormal) ∧
        (Script.parse (writeLines directives) sourceId).directives = directives := by
  refine ⟨fun directives h ↦ parse_writeLines_of_isNormal h sourceId, ?_⟩
  intro source directives
  have hnormal : ∀ directive ∈ directives, directive.IsNormal := by
    intro directive hdirective
    obtain ⟨line, hline, rfl⟩ := List.mem_map.mp hdirective
    obtain ⟨read, hread, rfl⟩ := List.mem_map.mp hline
    exact Directive.isNormal_classify (SourceLine.isLine_of_mem_ofSource hread)
  refine ⟨hnormal, ?_⟩
  rw [parse_writeLines_of_isNormal hnormal]
  exact directives_linesFrom 0 directives

/-- Directives whose payloads take part in what separates and trims lines. -/
def trickyDirectives : List Directive :=
  [.title .right "-1: Zoé" (some "07"), .setting .messageMaxWidth "20EM", .message .left "",
    .footerAttachment " ::", .unparsed "delimiter:"]

/-- Characters of two bytes and payloads that look like other lines are read back as well. -/
theorem parse_writeLines_trickyDirectives :
    (∀ directive ∈ trickyDirectives, directive.IsNormal) ∧
      writeLines trickyDirectives =
        "right-07:-1: Zoé\nmessageMaxWidth:20EM\n<\n:: ::\ndelimiter:" ∧
      ((Script.parse (writeLines trickyDirectives) 0).lines.map (·.span)) =
        [⟨0, 17⟩, ⟨18, 38⟩, ⟨39, 40⟩, ⟨41, 46⟩, ⟨47, 57⟩] ∧
      (Script.parse (writeLines trickyDirectives) 0).directives = trickyDirectives := by
  have hnormal : ∀ directive ∈ trickyDirectives, directive.IsNormal := by decide +kernel
  have hparse := (parse_writeLines 0).1 trickyDirectives hnormal
  rw [hparse]
  exact ⟨hnormal, by decide +kernel, by decide +kernel, directives_linesFrom 0 trickyDirectives⟩

end Colloquy
