import Colloquy.Proofs.Handles
import Colloquy.Proofs.Interruption
import Colloquy.Proofs.Lockstep
import Colloquy.Proofs.Sequel
import Mathlib.Logic.Function.Basic

/-!
# Blocks in succession

Blocks that are drawn one after another into one tree do not affect each other. Each has the result
that it has in a tree of its own, and in the end the shared tree reads as what was there first
followed by the trees of the single blocks, also by those that a failure left unfinished.

The markdown renderer has no memory and writes to its target only. As a plan of calls it is then one
to which handles are mere names: under other names it makes the same calls. That it finds every node
it names follows, for a node that it could not know would have two names.
-/

namespace Colloquy

variable {α : Type}

namespace CallPlan

/-- The plans make the same calls, the second under other names of the nodes, and come to the same
end. -/
inductive Lockstep (rename : NodeId → NodeId) : CallPlan α → CallPlan α → Prop
  | stop (result : Except RenderError α) : Lockstep rename (.stop result) (.stop result)
  | create {parent : NodeId} {role : Role} {classes : List String}
      {next : (SinkCall.create parent role classes).Answer → CallPlan α}
      {next' : (SinkCall.create (rename parent) role classes).Answer → CallPlan α} :
      (∀ node : NodeId, Lockstep rename (next node) (next' (rename node))) →
      Lockstep rename (.ask (.create parent role classes) next)
        (.ask (.create (rename parent) role classes) next')
  | edit {node : NodeId} {change : Edit} {next : (SinkCall.edit node change).Answer → CallPlan α}
      {next' : (SinkCall.edit (rename node) change).Answer → CallPlan α} :
      Lockstep rename (next ()) (next' ()) →
      Lockstep rename (.ask (.edit node change) next) (.ask (.edit (rename node) change) next')

/-- Every call names one of the nodes that are there, `size` of them at first. -/
def Grounded : CallPlan α → Nat → Prop
  | .stop _, _ => True
  | .ask (.create parent _ _) next, size =>
    parent.index < size ∧ (next ⟨size⟩).Grounded (size + 1)
  | .ask (.edit node _) next, size => node.index < size ∧ (next ()).Grounded size

/-- Plans one after the other are in lockstep if each is. -/
theorem Lockstep.andThen {rename : NodeId → NodeId} {first first' : CallPlan Unit}
    {rest rest' : CallPlan α} (hfirst : first.Lockstep rename first')
    (hrest : rest.Lockstep rename rest') :
    (first.andThen rest).Lockstep rename (first'.andThen rest') := by
  induction hfirst with
  | stop result =>
    cases result with
    | error error => exact .stop _
    | ok _ => exact hrest
  | create _ ih => exact .create ih
  | edit _ ih => exact .edit ih

/-- What is in lockstep with itself and starts with a new child names a parent that keeps its name,
and goes on in lockstep with itself. -/
theorem Lockstep.create_self {rename : NodeId → NodeId} {parent : NodeId} {role : Role}
    {classes : List String} {next : (SinkCall.create parent role classes).Answer → CallPlan α}
    (h : (ask (.create parent role classes) next).Lockstep rename
      (ask (.create parent role classes) next)) :
    rename parent = parent ∧ ∀ node : NodeId, (next node).Lockstep rename (next (rename node)) := by
  have hinv : ∀ {plan' : CallPlan α},
      (ask (.create parent role classes) next).Lockstep rename plan' →
      ∃ next', plan' = ask (.create (rename parent) role classes) next' ∧
        ∀ node : NodeId, (next node).Lockstep rename (next' (rename node)) := by
    intro plan' h
    cases h with
    | create hnext => exact ⟨_, rfl, hnext⟩
  obtain ⟨next', heq, hnext⟩ := hinv h
  injection heq with hcall hrest
  injection hcall with hparent
  subst hrest
  exact ⟨hparent.symm, hnext⟩

/-- What is in lockstep with itself and starts with a change names a node that keeps its name, and
goes on in lockstep with itself. -/
theorem Lockstep.edit_self {rename : NodeId → NodeId} {node : NodeId} {change : Edit}
    {next : (SinkCall.edit node change).Answer → CallPlan α}
    (h : (ask (.edit node change) next).Lockstep rename (ask (.edit node change) next)) :
    rename node = node ∧ (next ()).Lockstep rename (next ()) := by
  have hinv : ∀ {plan' : CallPlan α},
      (ask (.edit node change) next).Lockstep rename plan' →
      ∃ next', plan' = ask (.edit (rename node) change) next' ∧
        (next ()).Lockstep rename (next' ()) := by
    intro plan' h
    cases h with
    | edit hnext => exact ⟨_, rfl, hnext⟩
  obtain ⟨next', heq, hnext⟩ := hinv h
  injection heq with hcall hrest
  injection hcall with hnode
  subst hrest
  exact ⟨hnode.symm, hnext⟩

/-- Another name for every node from a number on. -/
def pastSize (size : Nat) (node : NodeId) : NodeId :=
  if node.index < size then node else ⟨node.index + 1⟩

/-- Different nodes keep different names. -/
theorem pastSize_injective (size : Nat) : Function.Injective (pastSize size) := by
  rintro ⟨i⟩ ⟨j⟩ h
  simp only [pastSize] at h
  grind

/-- The nodes before the number are those that keep their names. -/
theorem pastSize_eq_self_iff {size : Nat} {node : NodeId} :
    pastSize size node = node ↔ node.index < size := by
  obtain ⟨i⟩ := node
  simp only [pastSize]
  grind

/-- A plan that cannot tell new names of what is not there yet names only what is there. -/
theorem grounded_of_lockstep {plan : CallPlan α} {size : Nat}
    (h : ∀ rename, Function.Injective rename → (∀ node, node.index < size → rename node = node) →
      plan.Lockstep rename plan) :
    plan.Grounded size := by
  induction plan generalizing size with
  | stop result => trivial
  | ask call next ih =>
    -- Under this renaming only what is there keeps its name.
    have hself := h (pastSize size) (pastSize_injective size) fun _ ↦ pastSize_eq_self_iff.mpr
    cases call with
    | create parent role classes =>
      have hnext : ∀ rename, Function.Injective rename →
          (∀ node, node.index < size + 1 → rename node = node) →
          (next ⟨size⟩).Lockstep rename (next ⟨size⟩) := by
        intro rename hinjective hfixed
        have hrest := (h rename hinjective fun node hnode ↦
          hfixed node (Nat.lt_succ_of_lt hnode)).create_self.2 ⟨size⟩
        rwa [hfixed ⟨size⟩ (Nat.lt_succ_self size)] at hrest
      exact ⟨pastSize_eq_self_iff.mp hself.create_self.1, ih _ hnext⟩
    | edit node change =>
      exact ⟨pastSize_eq_self_iff.mp hself.edit_self.1,
        ih _ fun rename hinjective hfixed ↦ (h rename hinjective hfixed).edit_self.2⟩

/-- Over a tree a plan goes on once its first child is adopted. -/
theorem send_create {tree : ElementTree} {parent : NodeId} (hparent : parent.index < tree.size)
    (role : Role) (classes : List String)
    (next : (SinkCall.create parent role classes).Answer → CallPlan α) :
    (ask (.create parent role classes) next).send ElementTree.sink tree =
      (next (NodeId.mk tree.size)).send ElementTree.sink
        (tree.adopt parent (.new role classes)) := by
  rw [send_ask, Sink.answer, ElementTree.sink_create hparent]

/-- Over a tree a plan goes on once its first change is made. -/
theorem send_edit {tree : ElementTree} {node : NodeId} (hnode : node.index < tree.size)
    (change : Edit) (next : (SinkCall.edit node change).Answer → CallPlan α) :
    (ask (.edit node change) next).send ElementTree.sink tree =
      (next ()).send ElementTree.sink (tree.modify node (·.apply change)) := by
  rw [send_ask, Sink.answer, ElementTree.sink_edit hnode]

/-- Plans in lockstep come to the same end in a tree of its own and beyond a base, and what they
lead to beyond the base goes on as in the tree of its own. -/
theorem Lockstep.send_continues {base tree shared : ElementTree} {plan plan' : CallPlan α}
    (h : plan.Lockstep base.beyond plan') (hgrounded : plan.Grounded tree.size)
    (hcontinues : base.Continues tree shared) :
    let run := plan.send ElementTree.sink tree
    let run' := plan'.send ElementTree.sink shared
    run'.1 = run.1 ∧ base.Continues run.2 run'.2 := by
  induction h generalizing tree shared with
  | stop result => exact ⟨rfl, hcontinues⟩
  | @create parent role classes next next' hnext ih =>
    obtain ⟨hparent, hrest⟩ := hgrounded
    rw [send_create hparent, send_create (hcontinues.beyond_lt_size hparent),
      ← hcontinues.beyond_size]
    rw [← ElementTree.size_adopt tree parent (.new role classes)] at hrest
    exact ih ⟨tree.size⟩ hrest (hcontinues.adopt hparent rfl)
  | @edit node change next next' hnext ih =>
    obtain ⟨hnode, hrest⟩ := hgrounded
    rw [send_edit hnode, send_edit (hcontinues.beyond_lt_size hnode)]
    rw [← ElementTree.size_modify tree node (·.apply change)] at hrest
    exact ih hrest (hcontinues.edit node change)

end CallPlan

namespace MarkdownRenderer

/-- To the renderer the handle of its target is a mere name, and so are those that it is given for
new nodes: it carries out a plan that under other names makes the same calls and comes to the same
end. So what it does is decided by the source alone, and it writes only to its target and to what
it puts there. -/
def KnowsNodesByName (markdown : MarkdownRenderer ElementTree) (context : MarkdownContext) : Prop :=
  ∃ plan : String → NodeId → MarkdownContext → CallPlan Unit,
    markdown = ofPlan plan ElementTree.sink ∧
      ∀ source target rename, Function.Injective rename →
        (plan source target context).Lockstep rename (plan source (rename target) context)

/-- A renderer that makes one change and comes to an end, both decided by the source, needs no more
of its target than the name. -/
theorem knowsNodesByName_of_edit {markdown : MarkdownRenderer ElementTree} (edit : String → Edit)
    (answer : String → Except RenderError Unit)
    (hmarkdown : markdown = ofPlan (fun source target _ ↦
      .ask (.edit target (edit source)) fun _ ↦ .stop (answer source)) ElementTree.sink)
    (context : MarkdownContext) : markdown.KnowsNodesByName context :=
  ⟨_, hmarkdown, fun source _ _ _ ↦ .edit (.stop (answer source))⟩

/-- The renderer that shows sources as they are needs no more of its target than the name. -/
theorem plain_knowsNodesByName (context : MarkdownContext) :
    (plain ElementTree.sink).KnowsNodesByName context :=
  knowsNodesByName_of_edit .text _ (plain_eq_ofPlan _) context

/-- A renderer that appends HTML needs no more of its target than the name. -/
theorem ofHtml_knowsNodesByName (toHtml : String → String) (context : MarkdownContext) :
    (ofHtml toHtml ElementTree.sink).KnowsNodesByName context :=
  knowsNodesByName_of_edit (fun source ↦ .html (toHtml source)) _ (ofHtml_eq_ofPlan toHtml _)
    context

end MarkdownRenderer

/-- Drawings in lockstep have plans in lockstep, if those for markdown are. -/
theorem Drawing.Lockstep.toPlan {rename : NodeId → NodeId} {drawing drawing' : Drawing α}
    (h : drawing.Lockstep rename (Element.relabel 1) Eq drawing')
    {markdown : String → NodeId → CallPlan Unit}
    (hmarkdown : ∀ source target,
      (markdown source target).Lockstep rename (markdown source (rename target))) :
    (drawing.toPlan markdown).Lockstep rename (drawing'.toPlan markdown) := by
  induction h with
  | done hresult =>
    subst hresult
    exact .stop _
  | create hlook _ ih =>
    rw [Element.relabel_one] at hlook
    injection hlook with hrole hclasses
    subst hrole hclasses
    exact .create ih
  | edit _ ih => exact .edit ih
  | markdown _ ih => exact (hmarkdown _ _).andThen ih

/-- A block has the same result over a base as in a tree of its own, and goes on from the base as
from the root alone. -/
theorem renderDialogue_continues {markdown : MarkdownRenderer ElementTree}
    {context : MarkdownContext} (hmarkdown : markdown.KnowsNodesByName context)
    {base : ElementTree} (hbase : base.Grown) (source : String) (config : Config) :
    let run := renderDialogue source config ElementTree.sink markdown context .empty
    let run' := renderDialogue source config ElementTree.sink markdown context base
    run'.1 = run.1 ∧ base.Continues run.2 run'.2 := by
  obtain ⟨plan, rfl, hplan⟩ := hmarkdown
  let whole := ((Script.parse source 0).draw config ElementTree.root).toPlan
    fun source target ↦ plan source target context
  have hwhole : ∀ rename, Function.Injective rename → rename ElementTree.root = ElementTree.root →
      whole.Lockstep rename whole := by
    intro rename hinjective hroot
    have hdraw := (Script.parse source 0).lockstep_draw rename 1 config ElementTree.root
    rw [Script.relabel_one, Config.relabel_one, hroot] at hdraw
    exact hdraw.toPlan fun source target ↦ hplan source target rename hinjective
  have hgrounded : whole.Grounded ElementTree.empty.size :=
    CallPlan.grounded_of_lockstep fun rename hinjective hfixed ↦
      hwhole rename hinjective (hfixed _ Nat.one_pos)
  have hsend : ∀ state, renderDialogue source config ElementTree.sink
      (.ofPlan plan ElementTree.sink) context state = whole.send ElementTree.sink state := by
    intro state
    rw [← Drawing.perform_ofPlan]
    rfl
  simp only [hsend]
  exact (hwhole _ base.beyond_injective base.beyond_root).send_continues hgrounded
    (.refl hbase)

/-- The blocks after the first are drawn on the state that the first left. -/
theorem renderEach_cons {σ : Type} (prepare : σ → σ) (config : Config) (sink : Sink σ)
    (markdown : MarkdownRenderer σ) (context : MarkdownContext) (source : String)
    (rest : List String) (state : σ) :
    let run := renderDialogue source config sink markdown context (prepare state)
    renderEach prepare config sink markdown context (source :: rest) state =
      run :: renderEach prepare config sink markdown context rest run.2 := rfl

/-- Blocks that are drawn one after another into one tree have the results that they have each in a
tree of its own, failures included. In the end the outline of the tree is what it was at the start
followed by the outlines of the single trees, in order, and so is its HTML. -/
theorem renderEach_eq_alone {markdown : MarkdownRenderer ElementTree} {context : MarkdownContext}
    (hmarkdown : markdown.KnowsNodesByName context) {start : ElementTree}
    (hstart : start.Reachable) (config : Config) (sources : List String) :
    let shared := renderEach id config ElementTree.sink markdown context sources start
    let alone := sources.map fun source ↦
      renderDialogue source config ElementTree.sink markdown context .empty
    let last := (shared.map Prod.snd).getLastD start
    shared.map Prod.fst = alone.map Prod.fst ∧
      last.outline = start.outline ++ String.join (alone.map fun run ↦ run.2.outline) ∧
      last.toHtml = start.toHtml ++ String.join (alone.map fun run ↦ run.2.toHtml) := by
  have hgrown := hstart.grown
  clear hstart
  induction sources generalizing start with
  | nil => exact ⟨rfl, String.append_empty.symm, String.append_empty.symm⟩
  | cons source rest ih =>
    obtain ⟨hresult, hcontinues⟩ := renderDialogue_continues hmarkdown hgrown source config
    obtain ⟨hresults, houtline, hhtml⟩ := ih hcontinues.shared_grown
    rw [hcontinues.outline_eq, String.append_assoc] at houtline
    rw [hcontinues.toHtml_eq, String.append_assoc] at hhtml
    simp only [renderEach_cons, id, List.map_cons, List.getLastD_cons, String.join_cons]
    exact ⟨List.cons_eq_cons.mpr ⟨hresult, hresults⟩, houtline, hhtml⟩

/-- A renderer that puts each source into a node of its own and gives up when it has shown an empty
one. -/
def nestingPlan (source : String) (target : NodeId) (_ : MarkdownContext) : CallPlan Unit :=
  .ask (.create target .unparsed []) fun node ↦ .ask (.edit node (.text source)) fun _ ↦
    .stop (if source = "" then .error (.markdown "nothing to show") else .ok ())

/-- Two blocks, the first of which ends with a message without content. -/
def leavingSources : List String := ["renderMarkdownContent: true\n<a\n<", "left: Ann\n<b"]

/-- A message that is left unfinished does not get into the block after it. -/
theorem renderEach_eq_alone_leavingSources :
    let markdown := MarkdownRenderer.ofPlan nestingPlan ElementTree.sink
    let shared := renderEach id .default ElementTree.sink markdown ⟨""⟩ leavingSources notedTree
    let alone := leavingSources.map fun source ↦
      renderDialogue source .default ElementTree.sink markdown ⟨""⟩ .empty
    let last := (shared.map Prod.snd).getLastD notedTree
    notedTree.Reachable ∧ markdown.KnowsNodesByName ⟨""⟩ ∧
      shared.map Prod.fst = alone.map Prod.fst ∧
      last.outline = notedTree.outline ++ String.join (alone.map fun run ↦ run.2.outline) ∧
      last.toHtml = notedTree.toHtml ++ String.join (alone.map fun run ↦ run.2.toHtml) ∧
      shared.map (fun run ↦ (run.1.isOk, run.2.size)) = [(false, 11), (true, 16)] ∧
      alone.map (fun run ↦ (run.1.isOk, run.2.size)) = [(false, 10), (true, 6)] := by
  have hreachable : notedTree.Reachable := .create .empty
    (ElementTree.create_eq (Nat.zero_lt_one : ElementTree.root.index < 1) .comment [])
  intro markdown shared alone last
  have hmarkdown : markdown.KnowsNodesByName ⟨""⟩ :=
    ⟨nestingPlan, rfl, fun _ _ _ _ ↦ .create fun _ ↦ .edit (.stop _)⟩
  obtain ⟨hresults, houtline, hhtml⟩ :=
    renderEach_eq_alone hmarkdown hreachable .default leavingSources
  exact ⟨hreachable, hmarkdown, hresults, houtline, hhtml, by decide +kernel, by decide +kernel⟩

end Colloquy
