import Colloquy.Proofs.Grammar
import Colloquy.Proofs.Lowering
import Colloquy.Proofs.Warnings

/-!
# Setting lines

A line that gives a setting a value is read by the classifier, which puts the value into lower case,
and executed on the session, which compares it with fixed names. The two stages together read the
names of modes and the word for a switch in any mixture of ASCII cases, and no other text as one of
them: no letter beyond ASCII has a letter of these words for its lower case. `Setting.Changes` says
what a setting line does without mentioning either stage. Where nothing changes, the drawing that
the line belongs to has one warning more.
-/

namespace Colloquy

open Text

namespace Setting

/-- The names that a mode setting can be given. -/
def modeNames : Setting → List String
  | .titleMode => TitleMode.values.map TitleMode.name
  | .footerMode => FooterMode.values.map FooterMode.name
  | _ => []

/-- Whether a text turns a switch on. -/
def turnsOn (value : List Char) : Bool := decide (SameLetters value "true".toList)

/-- A trimmed value changes the setting, and with it one field of the presentation. -/
inductive Changes (value : List Char) (presentation : Presentation) : Setting → Presentation → Prop
  | titleMode {mode : TitleMode} (h : SameLetters value mode.name.toList) :
    Changes value presentation .titleMode { presentation with titleMode := mode }
  | footerMode {mode : FooterMode} (h : SameLetters value mode.name.toList) :
    Changes value presentation .footerMode { presentation with footerMode := mode }
  | messageMaxWidth :
    Changes value presentation .messageMaxWidth
      { presentation with messageMaxWidth := String.ofList value }
  | commentMaxWidth :
    Changes value presentation .commentMaxWidth
      { presentation with commentMaxWidth := String.ofList value }
  | clean : Changes value presentation .clean { presentation with clean := turnsOn value }
  | renderMarkdownTitle :
    Changes value presentation .renderMarkdownTitle
      { presentation with markdown := { presentation.markdown with title := turnsOn value } }
  | renderMarkdownContent :
    Changes value presentation .renderMarkdownContent
      { presentation with markdown := { presentation.markdown with content := turnsOn value } }
  | renderMarkdownFooter :
    Changes value presentation .renderMarkdownFooter
      { presentation with markdown := { presentation.markdown with footer := turnsOn value } }
  | renderMarkdownComment :
    Changes value presentation .renderMarkdownComment
      { presentation with markdown := { presentation.markdown with comment := turnsOn value } }

/-- A value changes any setting that is not a mode. -/
theorem exists_changes (setting : Setting) (value : List Char) (presentation : Presentation) :
    (setting = .titleMode ∨ setting = .footerMode) ∨
      ∃ after, setting.Changes value presentation after := by
  cases setting with
  | titleMode => exact .inl (.inl rfl)
  | footerMode => exact .inl (.inr rfl)
  | messageMaxWidth => exact .inr ⟨_, .messageMaxWidth⟩
  | commentMaxWidth => exact .inr ⟨_, .commentMaxWidth⟩
  | clean => exact .inr ⟨_, .clean⟩
  | renderMarkdownTitle => exact .inr ⟨_, .renderMarkdownTitle⟩
  | renderMarkdownContent => exact .inr ⟨_, .renderMarkdownContent⟩
  | renderMarkdownFooter => exact .inr ⟨_, .renderMarkdownFooter⟩
  | renderMarkdownComment => exact .inr ⟨_, .renderMarkdownComment⟩

end Setting

/-! ### Values -/

/-- A lowered value is a plain word exactly when the text spells that word. -/
theorem ofList_lowercase_eq_iff {value : List Char} {word : String}
    (hword : IsPlainWord word.toList) :
    String.ofList (lowercase value) = word ↔ SameLetters value word.toList := by
  rw [← lowercase_eq_iff hword, ← String.toList_inj, String.toList_ofList]

/-- The names of modes are plain words. -/
theorem TitleMode.isPlainWord_name (mode : TitleMode) : IsPlainWord mode.name.toList := by
  cases mode <;> decide

/-- The names of modes are plain words. -/
theorem FooterMode.isPlainWord_name (mode : FooterMode) : IsPlainWord mode.name.toList := by
  cases mode <;> decide

/-- A lowered value is read as the mode that the text spells. -/
theorem TitleMode.ofName?_lowercase {value : List Char} {mode : TitleMode} :
    ofName? (String.ofList (lowercase value)) = some mode ↔ SameLetters value mode.name.toList := by
  rw [ofName?_eq_some_iff, ofList_lowercase_eq_iff mode.isPlainWord_name]

/-- A lowered value is read as the mode that the text spells. -/
theorem FooterMode.ofName?_lowercase {value : List Char} {mode : FooterMode} :
    ofName? (String.ofList (lowercase value)) = some mode ↔ SameLetters value mode.name.toList := by
  rw [ofName?_eq_some_iff, ofList_lowercase_eq_iff mode.isPlainWord_name]

/-- A lowered value turns a switch on exactly when the text does. -/
theorem parseToggle_lowercase (value : List Char) :
    parseToggle (String.ofList (lowercase value)) = Setting.turnsOn value := by
  have hword : IsPlainWord "true".toList := by decide
  rw [Bool.eq_iff_iff, parseToggle, beq_iff_eq, ofList_lowercase_eq_iff hword, Setting.turnsOn,
    decide_eq_true_iff]

namespace Presentation

variable {presentation after : Presentation} {setting : Setting} {text : List Char}

/-- The text behind the colon changes the setting as its trimmed form does. -/
theorem set_valueOf_of_changes (h : setting.Changes (trim text) presentation after) :
    presentation.set setting (Directive.valueOf setting text) = .ok after := by
  cases h with
  | titleMode h => simp only [set, Directive.valueOf, TitleMode.ofName?_lowercase.mpr h]
  | footerMode h => simp only [set, Directive.valueOf, FooterMode.ofName?_lowercase.mpr h]
  | messageMaxWidth => rfl
  | commentMaxWidth => rfl
  | clean => simp only [set, Directive.valueOf, parseToggle_lowercase]
  | renderMarkdownTitle => simp only [set, Directive.valueOf, parseToggle_lowercase]
  | renderMarkdownContent => simp only [set, Directive.valueOf, parseToggle_lowercase]
  | renderMarkdownFooter => simp only [set, Directive.valueOf, parseToggle_lowercase]
  | renderMarkdownComment => simp only [set, Directive.valueOf, parseToggle_lowercase]

/-- A text that changes nothing is one for a mode, and is reported in lower case. -/
theorem set_valueOf_of_not_changes
    (h : ∀ after, ¬setting.Changes (trim text) presentation after) :
    presentation.set setting (Directive.valueOf setting text) =
      .error (.unknownMode setting (String.ofList (lowercase (trim text))) setting.modeNames) := by
  obtain (rfl | rfl) | ⟨after, hafter⟩ := setting.exists_changes (trim text) presentation
  · have hnone : TitleMode.ofName? (String.ofList (lowercase (trim text))) = none := by
      rw [Option.eq_none_iff_forall_ne_some]
      intro mode hmode
      exact h _ (.titleMode (TitleMode.ofName?_lowercase.mp hmode))
    simp only [set, Directive.valueOf, hnone]
    rfl
  · have hnone : FooterMode.ofName? (String.ofList (lowercase (trim text))) = none := by
      rw [Option.eq_none_iff_forall_ne_some]
      intro mode hmode
      exact h _ (.footerMode (FooterMode.ofName?_lowercase.mp hmode))
    simp only [set, Directive.valueOf, hnone]
    rfl
  · exact absurd hafter (h after)

end Presentation

/-! ### Lines -/

/-- Executing a setting line asks for nothing to be drawn. -/
theorem Session.execute_setting (session : Session) (setting : Setting) (value : String)
    (span : Span) :
    session.execute ⟨.setting setting value, span⟩ =
      ⟨(session.applySetting setting value).1, .nothing, (session.applySetting setting value).2⟩ :=
  rfl

/-- A keyword in any mixture of ASCII cases, a colon and a text make a line of the setting. -/
theorem Directive.classify_settingLine {setting : Setting} {keyword : String}
    (h : SameLetters keyword.toList setting.keyword.toList) (text : String) :
    classify (keyword ++ ":" ++ text) = .setting setting (valueOf setting text.toList) := by
  apply classify_of_fits
  have hline : (keyword ++ ":" ++ text).toList = keyword.toList ++ ':' :: text.toList := by
    simp only [String.toList_append, List.append_assoc]
    rfl
  rw [hline]
  exact .setting ⟨setting.keyword, List.mem_singleton_self _, h⟩

/-- Go on with a drawing after a line that asks for nothing: the message that waits gets the footer
it brought along, and what the line left is kept. -/
def Progress.note (progress : Progress) (session : Session) (warnings : List Warning) :
    Drawing Progress := do
  settleFooter progress.pending none
  return ⟨session, none, progress.warnings ++ warnings⟩

/-- Drawing a setting line is going on with what giving the setting its value leaves. -/
theorem Progress.drawLine_setting (progress : Progress) (wrapper : NodeId) (sourceId : Nat)
    (setting : Setting) (value : String) (span : Span) :
    progress.drawLine wrapper sourceId ⟨.setting setting value, span⟩ =
      progress.note (progress.session.applySetting setting value).1
        ((progress.session.applySetting setting value).2.toList.map (·.warning span sourceId)) := by
  simp only [drawLine, Session.execute_setting, Session.drawStep, pure_bind, faults,
    Step.attachment?, Option.isSome_none, Bool.false_eq_true, false_and, if_false, List.append_nil]
  rfl

/-- A setting line asks for nothing to be drawn and has its documented effect: what its trimmed text
changes is the one field of its setting, and a text that changes nothing leaves the session as it
was and gets one warning, which points to the line. Only a mode can be given such a text. -/
theorem execute_settingLine (progress : Progress) (wrapper : NodeId) (sourceId : Nat)
    (setting : Setting) (keyword text : String) (span : Span)
    (h : SameLetters keyword.toList setting.keyword.toList) :
    let line : Line := ⟨.classify (keyword ++ ":" ++ text), span⟩
    let session := progress.session
    let effect := session.execute line
    let drawing := progress.drawLine wrapper sourceId line
    let value := trim text.toList
    effect.step = .nothing ∧
    (∀ after, setting.Changes value session.presentation after →
      effect.session = { session with presentation := after } ∧
      drawing = progress.note { session with presentation := after } []) ∧
    ((∀ after, ¬setting.Changes value session.presentation after) →
      (setting = .titleMode ∨ setting = .footerMode) ∧
      effect.session = session ∧
      ∃ message,
        (Directive.setting setting (String.ofList (lowercase value))).warningText? none =
          some message ∧
        drawing = progress.note session
          [{ message := message, span := span, sourceId := sourceId }]) := by
  intro line session effect drawing value
  have hline : line = ⟨.setting setting (Directive.valueOf setting text.toList), span⟩ :=
    congrArg (Line.mk · span) (Directive.classify_settingLine h text)
  have heffect : effect = ⟨(session.applySetting setting _).1, .nothing, _⟩ :=
    (congrArg session.execute hline).trans (session.execute_setting _ _ _)
  have hdrawing : drawing = progress.note (session.applySetting setting _).1 _ :=
    (congrArg (progress.drawLine wrapper sourceId) hline).trans
      (progress.drawLine_setting wrapper sourceId setting _ span)
  rw [heffect, hdrawing]
  refine ⟨rfl, ?_, ?_⟩
  · intro after hchanges
    rw [Session.applySetting, Presentation.set_valueOf_of_changes hchanges]
    exact ⟨rfl, rfl⟩
  · intro hnone
    obtain hmode | ⟨after, hafter⟩ := setting.exists_changes value session.presentation
    · have hvalue : Directive.valueOf setting text.toList = String.ofList (lowercase value) := by
        obtain rfl | rfl := hmode <;> rfl
      have hfault := session.fault_applySetting setting (Directive.valueOf setting text.toList) none
      rw [Session.applySetting, Presentation.set_valueOf_of_not_changes hnone] at hfault ⊢
      rw [hvalue] at hfault
      refine ⟨hmode, rfl, _, ?_, rfl⟩
      rw [← Directive.map_message_fault?, ← hfault]
      rfl
    · exact absurd hafter (hnone after)

/-- A mode that is spelled in capitals changes a fresh session. One with a dotted capital I, whose
lower case has a small i in it, is reported and changes nothing. -/
theorem execute_settingLine_capitals :
    let session := Session.ofConfig .default
    let progress : Progress := ⟨session, none, []⟩
    let spelled : Line := ⟨.classify ("FOOTERmode" ++ ":" ++ "\u2003ALL\t"), ⟨4, 21⟩⟩
    let dotted : Line := ⟨.classify ("TitleMode" ++ ":" ++ " D\u0130SABLED"), ⟨0, 20⟩⟩
    (session.execute spelled).session = { session with presentation.footerMode := .all } ∧
    progress.drawLine ⟨1⟩ 7 spelled =
      .done ⟨{ session with presentation.footerMode := .all }, none, []⟩ ∧
    (session.execute dotted).session = session ∧
    progress.drawLine ⟨1⟩ 7 dotted =
      .done ⟨session, none, [⟨"unknown titleMode value 'di\u0307sabled' " ++
        "(expected one of: disabled, all, first); keeping the previous value", ⟨0, 20⟩, 7⟩]⟩ := by
  intro session progress spelled dotted
  obtain ⟨-, hspelled, -⟩ := execute_settingLine progress ⟨1⟩ 7 .footerMode "FOOTERmode"
    "\u2003ALL\t" ⟨4, 21⟩ (by decide)
  obtain ⟨-, -, hdotted⟩ := execute_settingLine progress ⟨1⟩ 7 .titleMode "TitleMode"
    " D\u0130SABLED" ⟨0, 20⟩ (by decide)
  have hall : SameLetters (trim "\u2003ALL\t".toList) FooterMode.all.name.toList := by
    decide +kernel
  obtain ⟨hchanged, hsilent⟩ := hspelled _ (.footerMode hall)
  have hforeign : ∀ mode : TitleMode,
      ¬SameLetters (trim " D\u0130SABLED".toList) mode.name.toList := by
    intro mode
    cases mode <;> decide +kernel
  obtain ⟨-, hkept, message, hmessage, hreported⟩ := hdotted fun after hchanges ↦ by
    cases hchanges with
    | titleMode hspells => exact hforeign _ hspells
  have htext : (Directive.setting .titleMode (String.ofList
      (lowercase (trim " D\u0130SABLED".toList)))).warningText? none =
        some ("unknown titleMode value 'di\u0307sabled' " ++
          "(expected one of: disabled, all, first); keeping the previous value") := by
    decide +kernel
  obtain rfl := Option.some.inj (hmessage.symm.trans htext)
  exact ⟨hchanged, hsilent, hkept, hreported⟩

end Colloquy
