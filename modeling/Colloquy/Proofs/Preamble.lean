import Colloquy.Proofs.Sketch
import Colloquy.Render.Script
import Colloquy.Sink.Trace

/-!
# Preambles

A configuration says nothing that lines cannot say. Its preamble has one line for each of its
fields: a title and a default footer for each side, and a value for each setting. Every line of the
preamble puts one field in force and leaves the others alone, so whatever the configuration that a
session starts from, and whatever the order of the lines, the preamble leads to the session that
starts from the other configuration. Main statement: a script after the preamble of a configuration
draws as the script alone does under that configuration.
-/

namespace Colloquy

/-! ### Values of settings as text -/

/-- The value that turns a switch on or off. -/
def toggleName (on : Bool) : String := if on then "true" else "false"

/-- A switch is read back from its value. -/
theorem parseToggle_toggleName (on : Bool) : parseToggle (toggleName on) = on := by
  cases on <;> rfl

namespace Presentation

/-- The value that a line gives a setting to put it in force as it is here. -/
def value (presentation : Presentation) : Setting → String
  | .titleMode => presentation.titleMode.name
  | .footerMode => presentation.footerMode.name
  | .messageMaxWidth => presentation.messageMaxWidth
  | .commentMaxWidth => presentation.commentMaxWidth
  | .clean => toggleName presentation.clean
  | .renderMarkdownTitle => toggleName presentation.markdown.title
  | .renderMarkdownContent => toggleName presentation.markdown.content
  | .renderMarkdownFooter => toggleName presentation.markdown.footer
  | .renderMarkdownComment => toggleName presentation.markdown.comment

/-- Presentations with the same values of all settings are equal. -/
theorem ext_value {presentation other : Presentation}
    (h : ∀ setting, presentation.value setting = other.value setting) : presentation = other := by
  have hmode : presentation.titleMode = other.titleMode := by
    have hname : TitleMode.ofName? presentation.titleMode.name = some other.titleMode :=
      TitleMode.ofName?_eq_some_iff.mpr (h .titleMode)
    exact Option.some.inj ((TitleMode.ofName?_eq_some_iff.mpr rfl).symm.trans hname)
  have hfooter : presentation.footerMode = other.footerMode := by
    have hname : FooterMode.ofName? presentation.footerMode.name = some other.footerMode :=
      FooterMode.ofName?_eq_some_iff.mpr (h .footerMode)
    exact Option.some.inj ((FooterMode.ofName?_eq_some_iff.mpr rfl).symm.trans hname)
  have htoggle : ∀ {on on' : Bool}, toggleName on = toggleName on' → on = on' := by
    intro on on' hname
    rw [← parseToggle_toggleName on, hname, parseToggle_toggleName]
  obtain ⟨_, _, _, ⟨_, _, _, _⟩, _, _⟩ := presentation
  obtain ⟨_, _, _, ⟨_, _, _, _⟩, _, _⟩ := other
  obtain rfl := hmode
  obtain rfl := hfooter
  obtain rfl := htoggle (h .clean)
  obtain rfl := htoggle (h .renderMarkdownTitle)
  obtain rfl := htoggle (h .renderMarkdownContent)
  obtain rfl := htoggle (h .renderMarkdownFooter)
  obtain rfl := htoggle (h .renderMarkdownComment)
  obtain rfl := h .messageMaxWidth
  obtain rfl := h .commentMaxWidth
  rfl

/-- A setting takes the value that it has in another presentation, and no other setting changes. -/
theorem exists_set_value (presentation other : Presentation) (setting : Setting) :
    ∃ after, presentation.set setting (other.value setting) = .ok after ∧
      ∀ asked, after.value asked =
        if asked = setting then other.value asked else presentation.value asked := by
  cases setting with
  | titleMode =>
    simp only [set, value, TitleMode.ofName?_eq_some_iff.mpr rfl]
    refine ⟨_, rfl, fun asked ↦ ?_⟩
    cases asked <;> rfl
  | footerMode =>
    simp only [set, value, FooterMode.ofName?_eq_some_iff.mpr rfl]
    refine ⟨_, rfl, fun asked ↦ ?_⟩
    cases asked <;> rfl
  | _ =>
    refine ⟨_, rfl, fun asked ↦ ?_⟩
    cases asked <;> simp [value, parseToggle_toggleName]

end Presentation

/-! ### Preambles -/

/-- The lines that say what a configuration says. -/
def Config.preamble (config : Config) : List Directive :=
  (Side.all.map fun side ↦ .title side (config.titles.get side) none) ++
    (Side.all.map fun side ↦ .footerDefault side (config.footers.get side)) ++
    Setting.all.map fun setting ↦ .setting setting (config.presentation.value setting)

/-- A line of the preamble gives a side its title or its default footer, or a setting its value. -/
theorem Config.mem_preamble {config : Config} {directive : Directive} :
    directive ∈ config.preamble ↔
      (∃ side, directive = .title side (config.titles.get side) none) ∨
      (∃ side, directive = .footerDefault side (config.footers.get side)) ∨
      ∃ setting, directive = .setting setting (config.presentation.value setting) := by
  simp [preamble, Side.mem_all, Setting.mem_all, eq_comm]

example : Config.default.preamble.length = 15 := rfl

namespace Session

/-- What a directive gives a side or a setting is in force. -/
def Honours (session : Session) : Directive → Prop
  | .title side title enforcedId => session.participants.get side = ⟨title, false, enforcedId⟩
  | .footerDefault side content => session.footers.get side = content
  | .setting setting value => session.presentation.value setting = value
  | _ => True

/-- A session that honours a whole preamble, with no title registered, is the one that starts from
the configuration. -/
theorem eq_ofConfig {session : Session} {config : Config} (hregistry : session.registry = .empty)
    (h : ∀ directive ∈ config.preamble, session.Honours directive) :
    session = ofConfig config := by
  have hparticipants : session.participants = config.titles.map .new := by
    apply PerSide.ext_get
    intro side
    have htitle := h _ (Config.mem_preamble.mpr (.inl ⟨side, rfl⟩))
    rw [show session.participants.get side = ⟨config.titles.get side, false, none⟩ from htitle]
    cases side <;> rfl
  have hfooters : session.footers = config.footers := by
    apply PerSide.ext_get
    intro side
    exact h _ (Config.mem_preamble.mpr (.inr (.inl ⟨side, rfl⟩)))
  have hpresentation : session.presentation = config.presentation := by
    apply Presentation.ext_value
    intro setting
    exact h _ (Config.mem_preamble.mpr (.inr (.inr ⟨setting, rfl⟩)))
  obtain ⟨participants, footers, presentation, registry⟩ := session
  simp only at hregistry hparticipants hfooters hpresentation
  rw [ofConfig, hregistry, hparticipants, hfooters, hpresentation]

/-- Executing a line of a preamble asks for nothing to be drawn and finds no fault. -/
theorem execute_of_mem_preamble {config : Config} {line : Line}
    (h : line.directive ∈ config.preamble) (session : Session) :
    session.execute line = ⟨session.advance line.directive, .nothing, none⟩ := by
  obtain ⟨directive, span⟩ := line
  obtain ⟨side, rfl⟩ | ⟨side, rfl⟩ | ⟨setting, rfl⟩ := Config.mem_preamble.mp h
  · rfl
  · rfl
  · obtain ⟨after, hset, -⟩ := session.presentation.exists_set_value config.presentation setting
    simp only [execute, advance, applySetting, hset]

/-- A line of a preamble registers no title. -/
theorem registry_advance_of_mem_preamble {config : Config} {directive : Directive}
    (h : directive ∈ config.preamble) (session : Session) :
    (session.advance directive).registry = session.registry := by
  obtain ⟨side, rfl⟩ | ⟨side, rfl⟩ | ⟨setting, rfl⟩ := Config.mem_preamble.mp h
  · rfl
  · rfl
  · obtain ⟨after, hset, -⟩ := session.presentation.exists_set_value config.presentation setting
    simp only [advance, applySetting, hset]

/-- A line of a preamble is honoured once it is executed, and so is every other one that was. -/
theorem honours_advance {config : Config} {directive asked : Directive}
    (hdirective : directive ∈ config.preamble) (hasked : asked ∈ config.preamble)
    {session : Session} (h : asked = directive ∨ session.Honours asked) :
    (session.advance directive).Honours asked := by
  -- Lines of different kinds write different fields; lines of one kind write the same field only if
  -- they are the same line.
  obtain ⟨side, rfl⟩ | ⟨side, rfl⟩ | ⟨setting, rfl⟩ := Config.mem_preamble.mp hdirective
  · simp only [advance, retitle]
    obtain ⟨other, rfl⟩ | ⟨other, rfl⟩ | ⟨other, rfl⟩ := Config.mem_preamble.mp hasked
    · simp only [Honours, PerSide.modify, PerSide.get_set, Participant.retitle] at h ⊢
      by_cases hside : other = side
      · rw [if_pos hside, hside]
      · rw [if_neg hside]
        exact h.resolve_left fun heq ↦ hside (Directive.title.inj heq).1
    · exact h.resolve_left (nomatch ·)
    · exact h.resolve_left (nomatch ·)
  · simp only [advance]
    obtain ⟨other, rfl⟩ | ⟨other, rfl⟩ | ⟨other, rfl⟩ := Config.mem_preamble.mp hasked
    · exact h.resolve_left (nomatch ·)
    · simp only [Honours, PerSide.get_set] at h ⊢
      by_cases hside : other = side
      · rw [if_pos hside, hside]
      · rw [if_neg hside]
        exact h.resolve_left fun heq ↦ hside (Directive.footerDefault.inj heq).1
    · exact h.resolve_left (nomatch ·)
  · obtain ⟨after, hset, hvalue⟩ :=
      session.presentation.exists_set_value config.presentation setting
    simp only [advance, applySetting, hset]
    obtain ⟨other, rfl⟩ | ⟨other, rfl⟩ | ⟨other, rfl⟩ := Config.mem_preamble.mp hasked
    · exact h.resolve_left (nomatch ·)
    · exact h.resolve_left (nomatch ·)
    · simp only [Honours, hvalue] at h ⊢
      by_cases hsetting : other = setting
      · rw [if_pos hsetting]
      · rw [if_neg hsetting]
        exact h.resolve_left fun heq ↦ hsetting (Directive.setting.inj heq).1

/-- Lines of a preamble are honoured once they are executed, in whatever order. -/
theorem honours_foldl_advance {config : Config} {directives : List Directive}
    (hdirectives : ∀ directive ∈ directives, directive ∈ config.preamble) {asked : Directive}
    (hasked : asked ∈ config.preamble) {session : Session}
    (h : asked ∈ directives ∨ session.Honours asked) :
    (directives.foldl advance session).Honours asked := by
  induction directives generalizing session with
  | nil => exact h.resolve_left List.not_mem_nil
  | cons first rest ih =>
    obtain ⟨hfirst, hrest⟩ := List.forall_mem_cons.mp hdirectives
    apply ih hrest
    rw [List.mem_cons] at h
    by_cases hlater : asked ∈ rest
    · exact .inl hlater
    · apply Or.inr
      apply honours_advance hfirst hasked
      exact h.imp_left fun hmem ↦ hmem.resolve_right hlater

/-- The lines of a preamble register no title. -/
theorem registry_foldl_advance {config : Config} {directives : List Directive}
    (hdirectives : ∀ directive ∈ directives, directive ∈ config.preamble) (session : Session) :
    (directives.foldl advance session).registry = session.registry := by
  induction directives generalizing session with
  | nil => rfl
  | cons first rest ih =>
    obtain ⟨hfirst, hrest⟩ := List.forall_mem_cons.mp hdirectives
    rw [List.foldl_cons, ih hrest, registry_advance_of_mem_preamble hfirst]

/-- The preamble of a configuration leads from every other one to it. -/
theorem after_preamble {config : Config} {directives : List Directive}
    (h : directives.Perm config.preamble) (other : Config) :
    after other directives = ofConfig config := by
  have hmem : ∀ directive ∈ directives, directive ∈ config.preamble :=
    fun directive ↦ h.mem_iff.mp
  apply eq_ofConfig
  · exact registry_foldl_advance hmem (ofConfig other)
  · intro asked hasked
    exact honours_foldl_advance hmem hasked (.inl (h.mem_iff.mpr hasked))

end Session

/-! ### Drawing after a preamble -/

/-- As long as no message waits, the lines of a preamble draw nothing and give no warning. -/
theorem Progress.foldlM_drawLine_preamble {config : Config} {lines : List Line}
    (h : ∀ line ∈ lines, line.directive ∈ config.preamble) (wrapper : NodeId) (sourceId : Nat)
    (session : Session) (warnings : List Warning) :
    lines.foldlM (drawLine wrapper sourceId) ⟨session, none, warnings⟩ =
      (pure ⟨(lines.map (·.directive)).foldl Session.advance session, none, warnings⟩ :
        Drawing Progress) := by
  induction lines generalizing session with
  | nil => rfl
  | cons line rest ih =>
    obtain ⟨hline, hrest⟩ := List.forall_mem_cons.mp h
    have hdraw : drawLine wrapper sourceId ⟨session, none, warnings⟩ line =
        pure ⟨session.advance line.directive, none, warnings⟩ := by
      have hexecute := Session.execute_of_mem_preamble hline session
      simp only [drawLine, faults, hexecute, Session.drawStep, Step.attachment?, settleFooter,
        PendingFooter.resolve, Option.bind_eq_bind, Option.bind_none, pure_bind, Option.toList_none,
        Option.isSome_none, Bool.false_eq_true, false_and, if_false, List.append_nil, List.map_nil]
    rw [List.foldlM_cons, hdraw, pure_bind, ih hrest, List.map_cons, List.foldl_cons]

/-- A script after the preamble of a configuration, its lines in any order and with any spans, draws
under every other configuration as the script alone does under that one: it makes the same requests
to the sink and to the markdown renderer, in the same order, and so comes to the same end with every
sink and every renderer. -/
theorem render_preamble_append {config : Config} {preamble : List Line}
    (h : (preamble.map (·.directive)).Perm config.preamble) (script : Script) (other : Config) :
    let prefaced : Script := ⟨preamble ++ script.lines, script.sourceId⟩
    (∀ root, prefaced.draw other root = script.draw config root) ∧
    ∀ {σ : Type} (sink : Sink σ) (markdown : MarkdownRenderer σ) (context : MarkdownContext),
      prefaced.render other sink markdown context = script.render config sink markdown context := by
  intro prefaced
  have hlines : ∀ line ∈ preamble, line.directive ∈ config.preamble :=
    fun line hline ↦ h.mem_iff.mp (List.mem_map_of_mem hline)
  have hdraw : ∀ root, prefaced.draw other root = script.draw config root := by
    intro root
    have hsession : (preamble.map (·.directive)).foldl Session.advance (.ofConfig other) =
        .ofConfig config := Session.after_preamble h other
    simp only [prefaced, Script.draw, List.foldlM_append,
      Progress.foldlM_drawLine_preamble hlines, pure_bind, hsession]
  refine ⟨hdraw, ?_⟩
  intro σ sink markdown context
  simp only [Script.render, hdraw]

/-- A configuration with titles and footers, all modes on and some markdown. -/
def sceneConfig : Config :=
  ⟨⟨"Ann", "Bob", ""⟩, ⟨"sent", "", "read"⟩, ⟨.all, .all, true, ⟨true, false, true, false⟩, "70%",
    "5em"⟩⟩

/-- A configuration that differs from the other one in every field. -/
def strangeConfig : Config :=
  ⟨⟨"Xi", "Yo", "Zed"⟩, ⟨"a", "b", "c"⟩, ⟨.disabled, .disabled, false, ⟨false, true, false, true⟩,
    "1px", "2px"⟩⟩

/-- Messages of all sides, and a line of no known shape. -/
def sceneScript : Script where
  lines := [⟨.message .left "hi", ⟨0, 3⟩⟩, ⟨.unparsed "what", ⟨4, 8⟩⟩,
    ⟨.message .right "ho", ⟨9, 12⟩⟩, ⟨.footerAttachment "bye", ⟨13, 18⟩⟩,
    ⟨.message .center "so", ⟨19, 22⟩⟩]
  sourceId := 0

/-- After the preamble in reverse order, the calls to the sink and to the markdown renderer are
those of the script alone. -/
theorem render_preamble_append_sceneScript :
    let preamble : List Line := sceneConfig.preamble.reverse.map (⟨·, ⟨0, 0⟩⟩)
    let sink := (ElementTree.sink.traced none).beside (List MarkdownCall)
    let markdown := (MarkdownRenderer.plain (ElementTree.sink.traced none)).recorded
    let run := sceneScript.render sceneConfig sink markdown ⟨""⟩ ([], [], .empty)
    (preamble.map (·.directive)).Perm sceneConfig.preamble ∧
      Script.render ⟨preamble ++ sceneScript.lines, sceneScript.sourceId⟩ strangeConfig sink
        markdown ⟨""⟩ ([], [], .empty) = run ∧
      run.2.1.map (·.source) = ["Ann", "sent", "Bob", "bye", "read"] ∧
      run.2.2.1.length = 30 := by
  intro preamble sink markdown run
  have hperm : (preamble.map (·.directive)).Perm sceneConfig.preamble := by decide +kernel
  obtain ⟨-, hrender⟩ := render_preamble_append hperm sceneScript strangeConfig
  exact ⟨hperm, congrFun (hrender sink markdown ⟨""⟩) _, by decide +kernel, by decide +kernel⟩

end Colloquy
