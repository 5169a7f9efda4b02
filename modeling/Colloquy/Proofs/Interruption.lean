import Colloquy.Proofs.Performance
import Colloquy.Render.Script

/-!
# Interrupted drawings

A markdown renderer whose requests depend on its source and target alone is a plan of sink calls,
and with such a plan for markdown a whole drawing is one. A plan is carried out call by call and
stops at the first call that is refused. So when a sink refuses a call, the calls it has accepted
are the first ones of the run in which nothing is refused, and none is made afterwards.
-/

namespace Colloquy

variable {α ρ σ : Type}

/-! ### Plans of calls -/

/-- What a sink gives back for a call that it accepts. -/
def SinkCall.Answer : SinkCall → Type
  | .create .. => NodeId
  | .edit .. => Unit

namespace Sink

/-- Make a call and take the answer. -/
def answer (sink : Sink σ) : (call : SinkCall) → Action σ call.Answer
  | .create parent role classes => sink.create parent role classes
  | .edit node change => sink.edit node change

/-- The state that some calls lead to. -/
def replay (sink : Sink σ) (calls : List SinkCall) (state : σ) : σ :=
  calls.foldl (fun state call ↦ (call.send sink state).2) state

end Sink

/-- Calls that are made one after the other, each with the answers to those before it in hand. In
the end there is a result or an error that is no refusal. -/
inductive CallPlan (α : Type) where
  | stop (result : Except RenderError α)
  | ask (call : SinkCall) (next : call.Answer → CallPlan α)

namespace CallPlan

/-- Carry out a plan. A call that is refused ends it with the error of the refusal. -/
def send (sink : Sink σ) : CallPlan α → Action σ α
  | .stop result => fun state ↦ (result, state)
  | .ask call next => do
    let answer ← sink.answer call
    (next answer).send sink

/-- Go on with another plan, unless the first ends in an error. -/
def andThen : CallPlan Unit → CallPlan α → CallPlan α
  | .stop (.ok ()), rest => rest
  | .stop (.error error), _ => .stop (.error error)
  | .ask call next, rest => .ask call fun answer ↦ (next answer).andThen rest

end CallPlan

/-- The renderer that carries out a plan which the source and the target decide. -/
def MarkdownRenderer.ofPlan (plan : String → NodeId → MarkdownContext → CallPlan Unit)
    (sink : Sink σ) : MarkdownRenderer σ :=
  fun source target context ↦ (plan source target context).send sink

/-- The calls of a drawing when each of its markdown requests is met by a plan. -/
def Drawing.toPlan (markdown : String → NodeId → CallPlan Unit) : Drawing α → CallPlan α
  | .done result => .stop (.ok result)
  | .create parent role classes next =>
    .ask (.create parent role classes) fun node ↦ (next node).toPlan markdown
  | .edit node change next => .ask (.edit node change) fun _ ↦ next.toPlan markdown
  | .markdown source target next => (markdown source target).andThen (next.toPlan markdown)

namespace CallPlan

/-- A plan starts with its first call. -/
theorem send_ask (sink : Sink σ) (call : SinkCall) (next : call.Answer → CallPlan α) (state : σ) :
    (CallPlan.ask call next).send sink state =
      match sink.answer call state with
      | (.ok answer, state') => (next answer).send sink state'
      | (.error error, state') => (.error error, state') := by
  rw [send, Action.bind_apply]
  rcases sink.answer call state with ⟨_ | _, _⟩ <;> rfl

/-- Two plans one after the other are carried out one after the other. -/
theorem send_andThen (sink : Sink σ) (first : CallPlan Unit) (rest : CallPlan α) (state : σ) :
    (first.andThen rest).send sink state =
      match first.send sink state with
      | (.ok (), state') => rest.send sink state'
      | (.error error, state') => (.error error, state') := by
  induction first generalizing state with
  | stop result => rcases result with error | ⟨⟩ <;> rfl
  | ask call next ih =>
    rw [andThen, send_ask, send_ask]
    rcases sink.answer call state with ⟨error | answer, state'⟩
    · rfl
    · exact ih answer state'

end CallPlan

/-- A performance with a planned renderer carries out the plan of the drawing. -/
theorem Drawing.perform_ofPlan (drawing : Drawing α) (sink : Sink σ)
    (plan : String → NodeId → MarkdownContext → CallPlan Unit) (context : MarkdownContext) :
    drawing.perform sink (.ofPlan plan sink) context =
      (drawing.toPlan fun source target ↦ plan source target context).send sink := by
  induction drawing with
  | done result => rfl
  | create parent role classes next ih =>
    funext state
    simp only [perform_create, toPlan, CallPlan.send_ask, Sink.answer, ih]
    rcases sink.create parent role classes state with ⟨_ | _, _⟩ <;> rfl
  | edit node change next ih =>
    funext state
    simp only [perform_edit, toPlan, CallPlan.send_ask, Sink.answer, ih]
    rcases sink.edit node change state with ⟨_ | _, _⟩ <;> rfl
  | markdown source target next ih =>
    funext state
    rw [perform_markdown, toPlan, CallPlan.send_andThen, MarkdownRenderer.ofPlan]
    rcases (plan source target context).send sink state with ⟨error | ⟨⟩, after⟩
    · rfl
    · exact congrFun ih after

namespace MarkdownRenderer

/-- Showing a source as it is takes one call. -/
theorem plain_eq_ofPlan (sink : Sink σ) :
    plain sink = ofPlan (fun source target _ ↦ .ask (.edit target (.text source))
      fun _ ↦ .stop (.ok ())) sink := by
  funext source target context state
  rw [ofPlan, CallPlan.send_ask, plain, Sink.answer]
  rcases sink.edit target (.text source) state with ⟨_ | _, _⟩ <;> rfl

/-- Appending the HTML that is made of a source takes one call. -/
theorem ofHtml_eq_ofPlan (toHtml : String → String) (sink : Sink σ) :
    ofHtml toHtml sink = ofPlan (fun source target _ ↦ .ask (.edit target (.html (toHtml source)))
      fun _ ↦ .stop (.ok ())) sink := by
  funext source target context state
  rw [ofPlan, CallPlan.send_ask, ofHtml, Sink.answer]
  rcases sink.edit target (.html (toHtml source)) state with ⟨_ | _, _⟩ <;> rfl

end MarkdownRenderer

/-! ### Calls that are logged -/

namespace Sink

/-- The state after a call is the one that its answer comes with. -/
theorem snd_send (sink : Sink σ) (call : SinkCall) (state : σ) :
    (call.send sink state).2 = (sink.answer call state).2 := by
  cases call with
  | create parent role classes =>
    rw [SinkCall.send, Action.bind_apply, answer]
    rcases sink.create parent role classes state with ⟨_ | _, _⟩ <;> rfl
  | edit node change => rfl

/-- One call more leads one state further. -/
theorem replay_append_singleton (sink : Sink σ) (calls : List SinkCall) (call : SinkCall)
    (state : σ) :
    sink.replay (calls ++ [call]) state = (sink.answer call (sink.replay calls state)).2 := by
  rw [replay, List.foldl_append, ← snd_send]
  rfl

/-- A sink that refuses nothing logs a call and passes it on. -/
theorem answer_traced_none (sink : Sink σ) (call : SinkCall) (log : List SinkCall) (state : σ) :
    (sink.traced none).answer call (log, state) =
      ((sink.answer call state).1, (log ++ [call], (sink.answer call state).2)) := by
  cases call <;> rfl

/-- A sink that is to refuse the call of an index refuses it without logging it. -/
theorem answer_traced_some (sink : Sink σ) (refusal : Refusal) (call : SinkCall)
    (log : List SinkCall) (state : σ) :
    (sink.traced (some refusal)).answer call (log, state) =
      if refusal.index = log.length then (.error refusal.error, (log, state))
      else (sink.traced none).answer call (log, state) := by
  have hlogged : ∀ {α : Type} (action : Action σ α),
      logged (some refusal) call action (log, state) =
        if refusal.index = log.length then (.error refusal.error, (log, state))
        else logged none call action (log, state) := by
    intro α action
    change (if refusal.index = log.length then (_ : Action _ α) else _) (log, state) = _
    by_cases h : refusal.index = log.length
    · rw [if_pos h, if_pos h]
      rfl
    · rw [if_neg h, if_neg h]
      rfl
  cases call with
  | create parent role classes => exact hlogged _
  | edit node change => exact hlogged _

/-- The faulty sink passes its calls on to another sink until the one of the refusal's index, which
it refuses. `view` shows the calls that were accepted and the state they led to, and `unbroken`
holds as long as none was refused. What the faulty sink does after its refusal is left open. -/
structure RefusesAt (faulty : Sink ρ) (sink : Sink σ) (refusal : Refusal)
    (view : ρ → List SinkCall × σ) (unbroken : ρ → Prop) : Prop where
  root : ∀ state, faulty.root state = sink.root (view state).2
  accepts : ∀ call state, unbroken state → (view state).1.length ≠ refusal.index →
    let reply := sink.answer call (view state).2
    ∃ after, faulty.answer call state = (reply.1, after) ∧
      view after = ((view state).1 ++ [call], reply.2) ∧ unbroken after
  refuses : ∀ call state, unbroken state → (view state).1.length = refusal.index →
    ∃ after, faulty.answer call state = (.error refusal.error, after) ∧ view after = view state

/-- A traced sink that is told to refuse a call is faulty in this sense. -/
theorem traced_refusesAt (sink : Sink σ) (refusal : Refusal) :
    (sink.traced (some refusal)).RefusesAt sink refusal (fun run ↦ run) fun _ ↦ True where
  root := fun _ ↦ rfl
  accepts := by
    rintro call ⟨log, state⟩ - hindex
    rw [answer_traced_some, if_neg (fun h ↦ hindex h.symm), answer_traced_none]
    exact ⟨_, rfl, rfl, trivial⟩
  refuses := by
    rintro call ⟨log, state⟩ - hindex
    rw [answer_traced_some, if_pos (show refusal.index = log.length from hindex.symm)]
    exact ⟨_, rfl, rfl⟩

end Sink

namespace CallPlan

/-- Calls are logged after those that were made before. -/
theorem log_prefix_send (plan : CallPlan α) (sink : Sink σ) (log : List SinkCall) (state : σ) :
    log <+: (plan.send (sink.traced none) (log, state)).2.1 := by
  induction plan generalizing log state with
  | stop result => exact List.prefix_refl _
  | ask call next ih =>
    rw [send_ask, Sink.answer_traced_none]
    rcases sink.answer call state with ⟨error | answer, state'⟩
    · exact List.prefix_append _ _
    · exact (List.prefix_append _ _).trans (ih answer _ _)

/-- The first call of a plan is logged next. -/
theorem log_prefix_send_ask (call : SinkCall) (next : call.Answer → CallPlan α) (sink : Sink σ)
    (log : List SinkCall) (state : σ) :
    log ++ [call] <+: ((ask call next).send (sink.traced none) (log, state)).2.1 := by
  rw [send_ask, Sink.answer_traced_none]
  rcases sink.answer call state with ⟨error | answer, state'⟩
  · exact List.prefix_refl _
  · exact log_prefix_send _ _ _ _

/-- Over a faulty sink a plan is carried out as over the sink that the calls are passed on to, if it
makes no more calls than are accepted. Else it ends with the refusal, where the accepted calls led
to. -/
theorem send_of_refusesAt {faulty : Sink ρ} {sink : Sink σ} {refusal : Refusal}
    {view : ρ → List SinkCall × σ} {unbroken : ρ → Prop}
    (hfaulty : faulty.RefusesAt sink refusal view unbroken) (plan : CallPlan α) {start : σ}
    {state : ρ} {log : List SinkCall} (hunbroken : unbroken state)
    (hview : view state = (log, sink.replay log start)) (hlength : log.length ≤ refusal.index) :
    let calm := plan.send (sink.traced none) (log, sink.replay log start)
    let cut := plan.send faulty state
    let accepted := calm.2.1.take refusal.index
    (refusal.index < calm.2.1.length → cut.1 = .error refusal.error ∧
      view cut.2 = (accepted, sink.replay accepted start)) ∧
    (calm.2.1.length ≤ refusal.index → (cut.1, view cut.2) = calm) := by
  induction plan generalizing state log with
  | stop result =>
    intro calm cut accepted
    exact ⟨fun h ↦ absurd h (Nat.not_lt.mpr hlength), fun _ ↦ congrArg (Prod.mk result) hview⟩
  | ask call next ih =>
    intro calm cut accepted
    by_cases hindex : log.length = refusal.index
    · -- The first call is the one that is refused, so nothing is added to the log.
      obtain ⟨after, hanswer, hkept⟩ := hfaulty.refuses call state hunbroken (by rw [hview, hindex])
      have hcut : cut = (.error refusal.error, after) := by
        simp only [cut, send_ask, hanswer]
      have hprefix : log ++ [call] <+: calm.2.1 := log_prefix_send_ask call next sink log _
      have hlog : log = accepted := by
        simp only [accepted, ← hindex]
        exact List.prefix_iff_eq_take.mp ((List.prefix_append _ _).trans hprefix)
      have hlt : refusal.index < calm.2.1.length := by
        have := hprefix.length_le
        rw [List.length_append, List.length_singleton] at this
        omega
      refine ⟨fun _ ↦ ?_, fun h ↦ absurd h (Nat.not_le.mpr hlt)⟩
      rw [hcut, ← hlog]
      exact ⟨rfl, hkept.trans hview⟩
    · -- The first call is accepted, and both runs go on from the same answer.
      obtain ⟨after, hanswer, hview', hunbroken'⟩ :=
        hfaulty.accepts call state hunbroken (by rwa [hview])
      simp only [hview] at hanswer hview'
      rw [← Sink.replay_append_singleton] at hview'
      have hlength' : (log ++ [call]).length ≤ refusal.index := by
        rw [List.length_append, List.length_singleton]
        omega
      simp only [accepted, calm, cut, send_ask, Sink.answer_traced_none,
        ← Sink.replay_append_singleton, hanswer]
      rcases (sink.answer call (sink.replay log start)).1 with error | answer
      · exact ⟨fun h ↦ absurd h (Nat.not_lt.mpr hlength'), fun _ ↦ congrArg (Prod.mk _) hview'⟩
      · exact ih answer hunbroken' hview' hlength'

end CallPlan

/-- A run over a sink that refuses one call. If the run in which nothing is refused makes more calls
than are accepted, the interrupted run ends with the error of the refusal; the calls that were
accepted are the first ones of the other run, and what they led to is left as it is. Otherwise both
runs make the same calls and come to the same end. -/
theorem renderDialogue_of_refusesAt {faulty : Sink ρ} {sink : Sink σ} {refusal : Refusal}
    {view : ρ → List SinkCall × σ} {unbroken : ρ → Prop}
    (hfaulty : faulty.RefusesAt sink refusal view unbroken) {state : ρ} {start : σ}
    (hunbroken : unbroken state) (hview : view state = ([], start)) (source : String)
    (config : Config) (plan : String → NodeId → MarkdownContext → CallPlan Unit)
    (context : MarkdownContext) :
    let calm := renderDialogue source config (sink.traced none) (.ofPlan plan (sink.traced none))
      context ([], start)
    let cut := renderDialogue source config faulty (.ofPlan plan faulty) context state
    let accepted := calm.2.1.take refusal.index
    (refusal.index < calm.2.1.length → cut.1 = .error refusal.error ∧
      view cut.2 = (accepted, sink.replay accepted start)) ∧
    (calm.2.1.length ≤ refusal.index → (cut.1, view cut.2) = calm) := by
  have hroot : faulty.root state = sink.root start := by
    rw [hfaulty.root, hview]
  let whole := ((Script.parse source 0).draw config (sink.root start)).toPlan
    fun source target ↦ plan source target context
  have hcalm : renderDialogue source config (sink.traced none) (.ofPlan plan (sink.traced none))
      context ([], start) = whole.send (sink.traced none) ([], start) := by
    rw [← Drawing.perform_ofPlan]
    rfl
  have hcut : renderDialogue source config faulty (.ofPlan plan faulty) context state =
      whole.send faulty state := by
    rw [← Drawing.perform_ofPlan, ← hroot]
    rfl
  rw [hcalm, hcut]
  exact CallPlan.send_of_refusesAt hfaulty _ hunbroken hview (Nat.zero_le _)

/-- A renderer of paragraphs, which makes three calls for each source. -/
def paragraphPlan (source : String) (target : NodeId) (_ : MarkdownContext) : CallPlan Unit :=
  .ask (.edit target (.html "<p>")) fun _ ↦ .ask (.edit target (.html source)) fun _ ↦
    .ask (.edit target (.html "</p>")) fun _ ↦ .stop (.ok ())

/-- There is no room for a tenth call. -/
def outOfRoom : Refusal := ⟨9, .sink "out of room"⟩

/-- A message whose footer goes through markdown. -/
def footedSource : String := "renderMarkdownFooter: true\n<hi\n::bye"

/-- A refusal between the calls that a renderer makes for a footer leaves the paragraph open. -/
theorem renderDialogue_of_refusesAt_footedSource :
    let sink := ElementTree.sink.traced none
    let faulty := ElementTree.sink.traced (some outOfRoom)
    let calm := renderDialogue footedSource .default sink (.ofPlan paragraphPlan sink) ⟨""⟩
      ([], .empty)
    let cut := renderDialogue footedSource .default faulty (.ofPlan paragraphPlan faulty) ⟨""⟩
      ([], .empty)
    let accepted := calm.2.1.take outOfRoom.index
    faulty.RefusesAt ElementTree.sink outOfRoom (fun run ↦ run) (fun _ ↦ True) ∧
      outOfRoom.index < calm.2.1.length ∧ cut.1 = .error outOfRoom.error ∧
      cut.2 = (accepted, ElementTree.sink.replay accepted .empty) ∧
      accepted.drop 7 = [.edit ⟨5⟩ (.html "<p>"), .edit ⟨5⟩ (.html "bye")] := by
  have hfaulty := ElementTree.sink.traced_refusesAt outOfRoom
  have hview : (([], .empty) : List SinkCall × ElementTree) = ([], .empty) := rfl
  have hrun := renderDialogue_of_refusesAt hfaulty trivial hview footedSource .default
    paragraphPlan ⟨""⟩
  obtain ⟨herror, haccepted⟩ := hrun.1 (by decide +kernel)
  exact ⟨hfaulty, by decide +kernel, herror, haccepted, by decide +kernel⟩

end Colloquy
