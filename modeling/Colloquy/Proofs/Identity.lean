import Colloquy.Proofs.Messages
import Colloquy.Proofs.Ordinals

/-!
# Identities of participants

A message is given its identity while the script is still being drawn, but the identity can be read
off the registry in the end: titles are only ever added to the end of a registry, so a title keeps
the number it is first given. Hence messages without an enforced identity share one exactly when
they share a title.
-/

namespace Colloquy

namespace Registry

/-- A title that is not empty is there once it is registered. -/
theorem InStep.mem_titles_register {registry : Registry} (hstep : registry.InStep) {title : String}
    (h : title ≠ "") : title ∈ (registry.register title).titles := by
  rw [hstep.titles_register]
  split
  · next hold => exact hold.resolve_left h
  · exact List.mem_append_right _ (List.mem_singleton_self title)

/-- Registering a title adds it to the distinct titles that are not empty. -/
theorem InStep.titles_register_of_eraseDups {registry : Registry} (hstep : registry.InStep)
    {carried : List String} (h : registry.titles = (carried.filter (· ≠ "")).eraseDups)
    (title : String) :
    (registry.register title).titles = ((carried ++ [title]).filter (· ≠ "")).eraseDups := by
  have hmem : title ∈ registry.titles ↔ title ∈ carried.filter (· ≠ "") := by
    rw [h, List.mem_eraseDups]
  rw [List.filter_append, List.eraseDups_append, ← h, hstep.titles_register]
  by_cases hempty : title = ""
  · rw [if_pos (.inl hempty), hempty]
    exact (List.append_nil _).symm
  have hsingle : [title].filter (· ≠ "") = [title] := by
    rw [List.filter_singleton, decide_eq_true hempty]
    rfl
  rw [hsingle, List.removeAll, List.filter_singleton]
  by_cases hold : title ∈ registry.titles
  · rw [if_pos (.inr hold), List.elem_eq_true_of_mem (hmem.mp hold)]
    exact (List.append_nil _).symm
  · have helem : (carried.filter (· ≠ "")).elem title = false := by
      rw [← Bool.not_eq_true, List.elem_iff]
      exact mt hmem.mpr hold
    rw [if_neg (not_or.mpr ⟨hempty, hold⟩), helem]
    rfl

end Registry

/-! ### The registry of a session -/

namespace MessageLine

/-- One line more is one message line more, if it is one. -/
theorem listAfter_append_singleton (past directives : List Directive) (directive : Directive) :
    listAfter past (directives ++ [directive]) =
      listAfter past directives ++ (ofDirective? (past ++ directives) directive).toList := by
  induction directives generalizing past with
  | nil => simp [listAfter]
  | cons first rest ih => simp [listAfter, ih]

/-- A message line stands where its past ends. -/
theorem exists_of_mem_listAfter {past directives : List Directive} {line : MessageLine}
    (h : line ∈ listAfter past directives) :
    ∃ rest, past ++ directives = line.past ++ .message line.side line.content :: rest := by
  induction directives generalizing past with
  | nil => cases h
  | cons directive rest ih =>
    rw [listAfter, List.mem_append] at h
    rcases h with hhead | hrest
    · cases directive with
      | message side content =>
        cases List.mem_singleton.mp hhead
        exact ⟨rest, rfl⟩
      | _ => cases hhead
    · obtain ⟨later, hlater⟩ := ih hrest
      rw [List.append_assoc] at hlater
      exact ⟨later, hlater⟩

end MessageLine

namespace Session

/-- A message registers the title of its side, and no other line registers one. -/
theorem registry_advance (session : Session) (directive : Directive) :
    (session.advance directive).registry =
      match directive with
      | .message side _ => session.registry.register (session.participants.get side).title
      | _ => session.registry := by
  cases directive with
  | setting setting value =>
    simp only [advance, applySetting]
    cases session.presentation.set setting value <;> rfl
  | _ => rfl

/-- Titles are only added to the end of the registry. -/
theorem titles_prefix_foldl_advance (session : Session) (directives : List Directive) :
    session.registry.titles <+: (directives.foldl advance session).registry.titles := by
  induction directives generalizing session with
  | nil => exact List.prefix_refl _
  | cons directive rest ih =>
    have hfirst : session.registry.titles <+: (session.advance directive).registry.titles := by
      rw [registry_advance]
      cases directive with
      | message side content => exact Registry.titles_prefix_register _ _
      | _ => exact List.prefix_refl _
    exact hfirst.trans (ih _)

/-- The registry stays in step. -/
theorem inStep_after (config : Config) (past : List Directive) :
    (after config past).registry.InStep := by
  induction past using List.reverseRecOn with
  | nil => exact Registry.inStep_empty
  | append_singleton past directive ih =>
    rw [after_append_singleton, registry_advance]
    cases directive with
    | message side content => exact ih.register _
    | _ => exact ih

/-- The registered titles are the distinct titles of the messages that are not empty, in the order
of their first messages. -/
theorem titles_after (config : Config) (past : List Directive) :
    (after config past).registry.titles =
      (((MessageLine.listAfter [] past).map (·.title config)).filter (· ≠ "")).eraseDups := by
  induction past using List.reverseRecOn with
  | nil => rfl
  | append_singleton past directive ih =>
    rw [after_append_singleton, registry_advance, MessageLine.listAfter_append_singleton]
    cases directive with
    | message side content =>
      have hregister :=
        (inStep_after config past).titles_register_of_eraseDups ih (config.titleAfter past side)
      simp only [(recalls_after config past).title side, hregister, List.map_append]
      rfl
    | _ => simpa [MessageLine.ofDirective?] using ih

/-- The identity that a message is given is the one that the final registry gives it. -/
theorem messageId?_after (config : Config) (past rest : List Directive) (side : Side)
    (content : String) :
    (after config past).messageId? side =
      (enforcedIdAfter past side <|>
        ((after config (past ++ .message side content :: rest)).registry.ordinal?
          (config.titleAfter past side)).map toString) := by
  have hrecalls := recalls_after config past
  have hmessage : (after config (past ++ [.message side content])).registry =
      (after config past).registry.register (config.titleAfter past side) := by
    rw [after_append_singleton, registry_advance]
    simp only [hrecalls.title side]
  have hprefix : (after config (past ++ [.message side content])).registry.titles <+:
      (after config (past ++ .message side content :: rest)).registry.titles := by
    have hfoldl := titles_prefix_foldl_advance (after config (past ++ [.message side content])) rest
    rwa [after, ← List.foldl_append, ← after, List.append_assoc] at hfoldl
  rw [messageId?, hrecalls.title side, hrecalls.enforcedId side, ← hmessage]
  have hstep := inStep_after config (past ++ [.message side content])
  have hlater := inStep_after config (past ++ .message side content :: rest)
  -- An empty title has no number at any time; any other keeps the one it has now.
  by_cases htitle : config.titleAfter past side = ""
  · rw [htitle, hstep.ordinal?_empty, hlater.ordinal?_empty]
  · have hmem : config.titleAfter past side ∈
        (after config (past ++ [.message side content])).registry.titles := by
      rw [hmessage]
      exact (inStep_after config past).mem_titles_register htitle
    rw [hstep.ordinal?_of_prefix hlater hprefix hmem]

end Session

/-! ### Drawn identities -/

namespace MessageLine

/-- The identity that was enforced with the title of the line, if one was. -/
def enforcedId (line : MessageLine) : Option String := enforcedIdAfter line.past line.side

/-- The message names its participant by the title, unless that is empty, and by the enforced
identity, else by the one-based place of the title among some titles. -/
def IdentifiedAs (config : Config) (titles : List String) (line : MessageLine)
    (message : Element × Forest Element) : Prop :=
  message.1.role = .message line.side ∧
  message.1.attributes.get? "data-participant" =
    (if line.title config = "" then none else some (line.title config)) ∧
  message.1.attributes.get? "data-participant-id" =
    (line.enforcedId <|> (titles.idxOf? (line.title config)).map fun place ↦ toString (place + 1))

/-- Without an enforced identity it is the place that identifies. -/
theorem IdentifiedAs.get?_id {config : Config} {titles : List String} {line : MessageLine}
    {message : Element × Forest Element} (h : line.IdentifiedAs config titles message)
    (hnone : line.enforcedId = none) :
    message.1.attributes.get? "data-participant-id" =
      (titles.idxOf? (line.title config)).map fun place ↦ toString (place + 1) := by
  rw [h.2.2, hnone]
  rfl

end MessageLine

/-- A drawn message of a script is identified as the final registry identifies it. -/
theorem MessageLine.DrawnAs.identifiedAs {config : Config} {directives : List Directive}
    {allowed : String → Option Content → Prop} {line : MessageLine}
    {message : Element × Forest Element} (hmem : line ∈ listAfter [] directives)
    (h : line.DrawnAs config allowed message) :
    line.IdentifiedAs config (Session.after config directives).registry.titles message := by
  obtain ⟨bubble, inside, footer, hwrapper, -⟩ := h.parts
  obtain ⟨rest, hrest⟩ := exists_of_mem_listAfter hmem
  have hid := Session.messageId?_after config line.past rest line.side line.content
  rw [← hrest] at hid
  refine ⟨hwrapper.role_eq, ?_, ?_⟩
  · rw [hwrapper.attributes_eq]
    exact Sketch.get?_participant_title _ _
  · rw [hwrapper.attributes_eq]
    refine (Sketch.get?_participant_id _ _).trans (hid.trans ?_)
    rw [List.nil_append, (Session.inStep_after config directives).ordinal?_eq, Option.map_map]
    rfl

/-- Decimals of different numbers differ. -/
private theorem toString_inj {m n : Nat} (h : toString m = toString n) : m = n := by
  have hdigits : Nat.toDigits 10 m = Nat.toDigits 10 n := String.ofList_injective h
  rw [← Nat.ofDigitChars_ten_toDigits (n := m), hdigits, Nat.ofDigitChars_ten_toDigits]

/-- Titles that are registered or empty have the same place exactly when they are the same. -/
private theorem idxOf?_eq_iff {titles : List String} {first second : String}
    (hfirst : first = "" ∨ first ∈ titles) (hsecond : second = "" ∨ second ∈ titles) :
    titles.idxOf? first = titles.idxOf? second ↔ first = second := by
  constructor
  · intro h
    cases hplace : titles.idxOf? first with
    | none =>
      have hfirst' := List.idxOf?_eq_none_iff.mp hplace
      have hsecond' := List.idxOf?_eq_none_iff.mp (h.symm.trans hplace)
      rw [hfirst.resolve_right hfirst', hsecond.resolve_right hsecond']
    | some place =>
      obtain ⟨_, hget, -⟩ := List.idxOf?_eq_some_iff.mp hplace
      obtain ⟨_, hget', -⟩ := List.idxOf?_eq_some_iff.mp (h.symm.trans hplace)
      exact hget.symm.trans hget'
  · rintro rfl
    rfl

/-- Over a reachable tree and with a renderer that writes nothing but the content of its target, a
drawing that succeeds ends with a registry of the distinct titles of its messages, and every message
is identified as that registry identifies it. Messages without an enforced identity share one
exactly when they share a title. -/
theorem identities_of_render {τ : Type} {start tree : ElementTree} (hstart : start.Reachable)
    {markdown : MarkdownRenderer (τ × ElementTree)} {context : MarkdownContext}
    {allowed : String → Option Content → Prop} (hmarkdown : markdown.Writes Prod.snd context allowed)
    {script : Script} {config : Config} {memory memory' : τ} {outcome : Outcome}
    (hrun : script.render config (ElementTree.sink.beside τ) markdown context (memory, start) =
      (.ok outcome, (memory', tree))) :
    outcome.registry.titles =
        ((script.messageLines.map (·.title config)).filter (· ≠ "")).eraseDups ∧
    ∃ drawn, tree.forest.map Element.bare =
        start.forest.map Element.bare ++ .cons wrapperElement drawn .nil ∧
      List.Forall₂ (MessageLine.IdentifiedAs config outcome.registry.titles) script.messageLines
        (drawn.messages Element.role) ∧
      ∀ first ∈ script.messageLines.zip (drawn.messages Element.role),
        ∀ second ∈ script.messageLines.zip (drawn.messages Element.role),
        first.1.enforcedId = none → second.1.enforcedId = none →
        (first.2.1.attributes.get? "data-participant-id" =
            second.2.1.attributes.get? "data-participant-id" ↔
          first.1.title config = second.1.title config) := by
  obtain ⟨hregistry, drawn, hforest, hmessages⟩ := Script.messages_of_render hstart hmarkdown hrun
  have htitles := Session.titles_after config script.directives
  have hidentified : List.Forall₂ (MessageLine.IdentifiedAs config outcome.registry.titles)
      script.messageLines (drawn.messages Element.role) := by
    rw [hregistry]
    have hboth := (List.forall₂_and_left script.messageLines _).mpr ⟨fun line h ↦ h, hmessages⟩
    exact hboth.imp fun line message ⟨hmem, hdrawn⟩ ↦ hdrawn.identifiedAs hmem
  rw [← hregistry] at htitles
  refine ⟨htitles, drawn, hforest, hidentified, ?_⟩
  have hknown : ∀ line ∈ script.messageLines,
      line.title config = "" ∨ line.title config ∈ outcome.registry.titles := by
    intro line hline
    rw [htitles, List.mem_eraseDups, List.mem_filter, decide_eq_true_eq, or_iff_not_imp_left]
    exact fun hempty ↦ ⟨List.mem_map_of_mem hline, hempty⟩
  rintro ⟨line, message⟩ hfirst ⟨line', message'⟩ hsecond hnone hnone'
  have hid := (List.forall₂_zip hidentified hfirst).get?_id hnone
  have hid' := (List.forall₂_zip hidentified hsecond).get?_id hnone'
  have hnumber : Function.Injective fun place : Nat ↦ toString (place + 1) :=
    fun _ _ h ↦ Nat.succ_inj.mp (toString_inj h)
  have hmem := hknown line (List.of_mem_zip hfirst).1
  have hmem' := hknown line' (List.of_mem_zip hsecond).1
  rw [hid, hid', (Option.map_injective hnumber).eq_iff, idxOf?_eq_iff hmem hmem']

/-- A script with two participants: one on two sides, and one that has an enforced identity at first.
One title is never carried by a message, and one message has no title. -/
def participantsScript : Script where
  lines := [⟨.title .left "Ann" none, ⟨0, 9⟩⟩, ⟨.message .left "a", ⟨10, 13⟩⟩,
    ⟨.title .left "Bob" (some "b7"), ⟨14, 28⟩⟩, ⟨.message .left "b", ⟨29, 32⟩⟩,
    ⟨.title .right "Ann" none, ⟨33, 43⟩⟩, ⟨.message .right "c", ⟨44, 47⟩⟩,
    ⟨.title .right "Eve" none, ⟨48, 58⟩⟩, ⟨.message .center "d", ⟨59, 62⟩⟩,
    ⟨.title .left "Bob" none, ⟨63, 72⟩⟩, ⟨.message .left "e", ⟨73, 76⟩⟩]
  sourceId := 0

/-- The two participants are numbered in the order of their first messages, whatever the side. -/
theorem identities_of_render_participantsScript :
    ∃ outcome tree drawn,
      participantsScript.render .default (ElementTree.sink.beside Unit)
          (.plain (ElementTree.sink.beside Unit)) ⟨""⟩ ((), .empty) = (.ok outcome, ((), tree)) ∧
      outcome.registry.titles = ["Ann", "Bob"] ∧
      tree.forest.map Element.bare =
        ElementTree.empty.forest.map Element.bare ++ .cons wrapperElement drawn .nil ∧
      List.Forall₂ (MessageLine.IdentifiedAs .default ["Ann", "Bob"])
        participantsScript.messageLines (drawn.messages Element.role) ∧
      participantsScript.messageLines.map (fun line ↦ (line.title .default, line.enforcedId)) =
        [("Ann", none), ("Bob", some "b7"), ("Ann", none), ("", none), ("Bob", none)] := by
  have hok : (participantsScript.render .default (ElementTree.sink.beside Unit)
      (.plain (ElementTree.sink.beside Unit)) ⟨""⟩ ((), .empty)).1.isOk := by
    decide +kernel
  obtain ⟨outcome, ⟨⟨⟩, tree⟩, hrun⟩ := Action.exists_of_isOk hok
  have hwrites := MarkdownRenderer.plain_writes (ElementTree.sink_carries.beside (τ := Unit)) ⟨""⟩
  obtain ⟨htitles, drawn, hforest, hmessages, -⟩ := identities_of_render .empty hwrites hrun
  have hnames : outcome.registry.titles = ["Ann", "Bob"] := htitles.trans (by decide)
  rw [hnames] at hmessages
  exact ⟨outcome, tree, drawn, hrun, hnames, hforest, hmessages, by decide⟩

end Colloquy
