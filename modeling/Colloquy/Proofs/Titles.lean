import Colloquy.Proofs.Messages

/-!
# Shown titles

Whether a message shows a title is decided by the lines before it alone. A title that is shown comes
first in the box of the message, and it is the one that names the participant of the message.
-/

namespace Colloquy

/-- The element shows a text, verbatim or as what the markdown renderer may leave for it. -/
def Element.ShowsText (allowed : String → Option Content → Prop) (element : Element)
    (text : String) : Prop :=
  if Classes.render ∈ element.classes then allowed text element.content
  else element.content = some (.text text)

namespace MessageLine

/-- The message shows a title exactly when the lines before it ask for one. That title stands first
in the box, is the only one there, and is the title that names the participant. -/
def TitledAs (config : Config) (allowed : String → Option Content → Prop) (line : MessageLine)
    (message : Element × Forest Element) : Prop :=
  message.1.role = .message line.side ∧
  ∃ bubble inside, message.2 = .cons bubble inside .nil ∧ bubble.role = .bubble ∧
    ((∃ node ∈ inside.preorder, node.role = .title) ↔ config.ShowsTitle line.past line.side) ∧
    (config.ShowsTitle line.past line.side →
      message.1.attributes.get? "data-participant" = some (line.title config) ∧
      ∃ node rest, inside = .cons node .nil rest ∧ node.role = .title ∧
        node.ShowsText allowed (line.title config) ∧
        ∀ other ∈ rest.preorder, other.role ≠ .title)

end MessageLine

/-- What depicts a text shows it. -/
theorem Sketch.DepictedBy.showsText {allowed : String → Option Content → Prop} {role : Role}
    {className text : String} {markdown : Bool} {element : Element}
    (hclass : className ≠ Classes.render)
    (h : (Sketch.ofText role className text markdown).DepictedBy allowed element) :
    element.ShowsText allowed text := by
  obtain ⟨content, hcontent, rfl⟩ := h
  cases markdown with
  | false =>
    have hnot : Classes.render ∉ [className] := fun hmem ↦ hclass (List.mem_singleton.mp hmem).symm
    exact (if_neg hnot).mpr hcontent
  | true => exact (if_pos (by simp [Sketch.element, Sketch.ofText])).mpr hcontent

/-- Below the title of a message, if it has one, there is none. -/
theorem Forest.LooksLike.not_title {allowed : String → Option Content → Prop}
    {rest : Forest Element} {toggles : MarkdownToggles} {content : String} {footer : Option String}
    (h : rest.LooksLike allowed (.optional (some (Sketch.content toggles content)) ++
      .optional (footer.map (Sketch.footer toggles.footer)))) :
    ∀ other ∈ rest.preorder, other.role ≠ .title := by
  intro other hother htitle
  have hrole := List.mem_map_of_mem (f := Element.role) hother
  rw [h.roles, htitle, preorder_append, List.map_append, List.mem_append] at hrole
  rcases hrole with hcontent | hfooter
  · simp [optional, preorder, Sketch.content] at hcontent
  · cases footer with
    | none => cases hfooter
    | some text => simp [optional, preorder, Sketch.footer] at hfooter

/-- A drawn message shows its title as the lines before it ask. -/
theorem MessageLine.DrawnAs.titledAs {config : Config} {allowed : String → Option Content → Prop}
    {line : MessageLine} {message : Element × Forest Element}
    (h : line.DrawnAs config allowed message) : line.TitledAs config allowed message := by
  obtain ⟨bubble, inside, footer, hwrapper, hbelow, hbubble, hinside⟩ := h.parts
  have hshows : (line.session config).showsTitle line.side
      (line.session config).presentation.titleMode = true ↔ config.ShowsTitle line.past line.side :=
    Session.showsTitle_after config line.past line.side
  refine ⟨hwrapper.role_eq, bubble, inside, hbelow, hbubble, ?_⟩
  by_cases hasks : config.ShowsTitle line.past line.side
  · rw [if_pos (hshows.mpr hasks)] at hinside
    -- The title is the first of what is in the box.
    rcases hinside with _ | ⟨htitle, hnil, hrest⟩
    cases hnil
    have hrole := htitle.role_eq.trans (Sketch.role_ofText _ _ _ _)
    refine ⟨⟨fun _ ↦ hasks, fun _ ↦ ⟨_, List.mem_cons_self, hrole⟩⟩, fun _ ↦ ⟨?_, ?_⟩⟩
    · rw [hwrapper.attributes_eq]
      exact (Sketch.get?_participant_title _ _).trans (if_neg hasks.1)
    · exact ⟨_, _, rfl, hrole, htitle.showsText (by decide), Forest.LooksLike.not_title hrest⟩
  · rw [if_neg (mt hshows.mp hasks)] at hinside
    refine ⟨⟨?_, fun h ↦ absurd h hasks⟩, fun h ↦ absurd h hasks⟩
    rintro ⟨node, hnode, hrole⟩
    exact absurd hrole (Forest.LooksLike.not_title hinside node hnode)

/-- Over a reachable tree and with a renderer that writes nothing but the content of its target, the
titles of a drawing that succeeds are decided by the lines before each message. -/
theorem titles_of_render {τ : Type} {start tree : ElementTree} (hstart : start.Reachable)
    {markdown : MarkdownRenderer (τ × ElementTree)} {context : MarkdownContext}
    {allowed : String → Option Content → Prop} (hmarkdown : markdown.Writes Prod.snd context allowed)
    {script : Script} {config : Config} {memory memory' : τ} {outcome : Outcome}
    (hrun : script.render config (ElementTree.sink.beside τ) markdown context (memory, start) =
      (.ok outcome, (memory', tree))) :
    ∃ drawn, tree.forest.map Element.bare =
        start.forest.map Element.bare ++ .cons wrapperElement drawn .nil ∧
      List.Forall₂ (MessageLine.TitledAs config allowed) script.messageLines
        (drawn.messages Element.role) := by
  obtain ⟨-, drawn, hforest, hmessages⟩ := Script.messages_of_render hstart hmarkdown hrun
  exact ⟨drawn, hforest, hmessages.imp fun _ _ hdrawn ↦ hdrawn.titledAs⟩

/-- A script whose left side is given the same title twice and goes through all title modes, and
whose right side has no title. -/
def titlesScript : Script where
  lines := [⟨.title .left "Ann" none, ⟨0, 9⟩⟩, ⟨.message .left "a", ⟨10, 13⟩⟩,
    ⟨.message .left "b", ⟨14, 17⟩⟩, ⟨.setting .titleMode "all", ⟨18, 33⟩⟩,
    ⟨.message .left "c", ⟨34, 37⟩⟩, ⟨.title .left "Ann" none, ⟨38, 47⟩⟩,
    ⟨.setting .titleMode "disabled", ⟨48, 68⟩⟩, ⟨.message .left "d", ⟨69, 72⟩⟩,
    ⟨.setting .titleMode "first", ⟨73, 90⟩⟩, ⟨.message .left "e", ⟨91, 94⟩⟩,
    ⟨.message .right "f", ⟨95, 98⟩⟩]
  sourceId := 0

/-- The first message, the one under the mode `all` and the first one after the new title under the
mode `first` show a title. -/
theorem titles_of_render_titlesScript :
    ∃ outcome tree drawn,
      titlesScript.render .default (ElementTree.sink.beside Unit)
          (.plain (ElementTree.sink.beside Unit)) ⟨""⟩ ((), .empty) = (.ok outcome, ((), tree)) ∧
      tree.forest.map Element.bare =
        ElementTree.empty.forest.map Element.bare ++ .cons wrapperElement drawn .nil ∧
      List.Forall₂ (MessageLine.TitledAs .default fun source content ↦
          content = some (.text source)) titlesScript.messageLines (drawn.messages Element.role) ∧
      titlesScript.messageLines.map
          (fun line ↦ decide (Config.default.ShowsTitle line.past line.side)) =
        [true, false, true, false, true, false] := by
  have hok : (titlesScript.render .default (ElementTree.sink.beside Unit)
      (.plain (ElementTree.sink.beside Unit)) ⟨""⟩ ((), .empty)).1.isOk := by
    decide +kernel
  obtain ⟨outcome, ⟨⟨⟩, tree⟩, hrun⟩ := Action.exists_of_isOk hok
  have hwrites := MarkdownRenderer.plain_writes (ElementTree.sink_carries.beside (τ := Unit)) ⟨""⟩
  obtain ⟨drawn, hforest, hmessages⟩ := titles_of_render .empty hwrites hrun
  exact ⟨outcome, tree, drawn, hrun, hforest, hmessages, by decide⟩

end Colloquy
