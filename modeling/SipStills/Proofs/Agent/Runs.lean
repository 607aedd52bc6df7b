/-
# Runs of an agent and its observers

A run is a list of operations (`AgentOp`): requests, notifications, calls of a foreign engine, and
whatever happens to the engine on its own side.  Observers react to notifications, may ask for
anything and may raise further notifications, so that one operation may do a lot.

`World.runEvents` are the entries that a run makes in the history of the accounts, in the order in
which they are made.  It walks along the definitions of `SipStills.Agent.World` and takes note
where a request was answered and where a report is accepted; the worlds on the way are those of the
run itself.

`World.trace_run`: a run is a trace of single steps with these entries, so that whatever holds
along every trace holds along every run.
-/
import SipStills.Foreign
import SipStills.Proofs.Agent.Books

namespace SipStills

variable {δ κ γ σ : Type}

/-- What happens to an agent from outside. -/
inductive AgentOp (γ : Type) where
  /-- A request is made on a thread. -/
  | ask (t : ThreadId) (request : Request γ)
  /-- The agent is notified on a thread. -/
  | notify (t : ThreadId) (n : Notification)
  /-- The engine is made to raise a notification on a thread. -/
  | raise (t : ThreadId) (stimulus : Stimulus)
  /-- A foreign engine calls on a thread; `known` says whether it names the agent. -/
  | foreign (t : ThreadId) (known : Bool) (call : ForeignCall)
  /-- Something happens on the engine's own side, such as a command that passes by the agent. -/
  | engine (change : Engine → Engine)
  /-- The owner lets go of the agent. -/
  | drop

/-- A body that begins and ends leaves the counts as they were. -/
lemma InFlight.leave_enter (b : Body) (s : InFlight) : (s.enter b).leave b = s := by
  have hcount (i : Nat) (count : Nat → Nat) :
      changeAt (· - 1) i (changeAt (· + 1) i count) = count := by
    funext j
    unfold changeAt
    split <;> rfl
  simp [leave, enter, hcount]

namespace World

@[simp] lemma closing_enter (t : ThreadId) (w : World δ κ γ σ) :
    (w.enter t).agent.closing = w.agent.closing := rfl

/-- A body that does nothing only registers its thread. -/
lemma leave_enter (t : ThreadId) (w : World δ κ γ σ) :
    (w.enter t).leave t = { w with agent := w.agent.ensureThread t } := by
  unfold leave
  exact congrArg (World.mk (w.agent.ensureThread t) · w.notes)
    (InFlight.leave_enter ⟨w.agent.number, t⟩ w.inFlight)

/-- After the teardown has begun, a notification is not looked at, and nobody is asked for a
reaction. -/
lemma deliver_of_closing {w : World δ κ γ σ} (h : w.agent.closing = true) (o : Observers γ σ)
    (raise : Raise δ κ γ σ) (t : ThreadId) (n : Notification) :
    w.deliver o raise t n
      = if w.agent.gone then w else { w with agent := w.agent.ensureThread t } := by
  simp [deliver, h, leave_enter]

/-- One operation. -/
def step (o : Observers γ σ) (limit : Nat) (w : World δ κ γ σ) : AgentOp γ → World δ κ γ σ
  | .ask t request => (w.perform t request).2
  | .notify t n => w.notify o limit t n
  | .raise t stimulus => (raise o limit t stimulus w).2
  | .foreign t known call => w.foreign o limit t known call
  | .engine change => { w with agent := { w.agent with engine := change w.agent.engine } }
  | .drop => { w with agent := w.agent.drop }

/-- Operations one after the other. -/
def run (o : Observers γ σ) (limit : Nat) (w : World δ κ γ σ) (ops : List (AgentOp γ)) :
    World δ κ γ σ :=
  ops.foldl (step o limit) w

/-- When the engine answers the registrations that wait for it, it raises two notifications for each
of them, one after the other on a thread of its own. -/
lemma answerAll_eq_run (o : Observers γ σ) (limit : Nat) (first : ThreadId) (w : World δ κ γ σ) :
    w.answerAll o limit first
      = w.run o limit
          (.engine (fun e => { e with unanswered := [] })
            :: w.agent.engine.unanswered.zipIdx.flatMap fun x =>
              [.raise (first + x.2) (.started x.1.1 false),
                .raise (first + x.2) (.answered x.1.1 .ok x.1.2)]) := by
  rw [run, List.foldl_cons, List.foldl_flatMap]
  rfl

/-! ### The entries of a run -/

/-- How the entries of a notification that is raised are found. -/
abbrev RaiseEvents (δ κ γ σ : Type) := Stimulus → World δ κ γ σ → List AccountEvent

/-- The entries that a reaction makes. -/
def reactEvents (raise : Raise δ κ γ σ) (raised : RaiseEvents δ κ γ σ) (t : ThreadId) :
    Reaction γ σ → World δ κ γ σ → List AccountEvent
  | .done, _ => []
  | .abort, _ => []
  | .note change next, w => reactEvents raise raised t next { w with notes := change w.notes }
  | .look next, w => reactEvents raise raised t (next w.notes) w
  | .ask request next, w =>
    let r := w.agent.perform t request
    request.events w.agent r.1
      ++ reactEvents raise raised t (next r.1) { w with agent := r.2 }
  | .raise stimulus next, w =>
    let r := raise stimulus w
    raised stimulus w ++ reactEvents raise raised t (next r.1) r.2

/-- The entries that are made while stills are offered to the consumer. -/
def offerEvents (o : Observers γ σ) (raise : Raise δ κ γ σ) (raised : RaiseEvents δ κ γ σ)
    (t : ThreadId) (callee : String) : List Bytes → World δ κ γ σ → List AccountEvent
  | [], _ => []
  | data :: rest, w =>
    match w.agent.pipeline.dispatch.consumer with
    | none => offerEvents o raise raised t callee rest (w.mapDispatch Dispatch.countDiscarded)
    | some consumer =>
      let reaction := o.consume consumer callee data
      reactEvents raise raised t reaction w
        ++ match react raise t reaction w with
          | (true, w) =>
            offerEvents o raise raised t callee rest (w.mapDispatch Dispatch.countDelivered)
          | (false, _) => []

/-- The entries that the body of a notification makes.  A report is accepted if its account is in
the directory or is one that the engine holds. -/
def processEvents (o : Observers γ σ) (raise : Raise δ κ γ σ) (raised : RaiseEvents δ κ γ σ)
    (t : ThreadId) (n : Notification) (w : World δ κ γ σ) : List AccountEvent :=
  match n with
  | .report id report =>
    match w.agent.enter? id report with
    | none => []
    | some agent =>
      .reported id report :: reactEvents raise raised t (o.onReport id report) { w with agent }
  | .decode event =>
    let r := w.agent.pipeline.prepare event
    let w := { w with agent := { w.agent with pipeline := r.2 } }
    match r.1 with
    | .settled _ => []
    | .stills data => w.offerEvents o raise raised t event.callee data

/-- The entries that a notification makes: none after the teardown has begun. -/
def deliverEvents (o : Observers γ σ) (raise : Raise δ κ γ σ) (raised : RaiseEvents δ κ γ σ)
    (t : ThreadId) (n : Notification) (w : World δ κ γ σ) : List AccountEvent :=
  if w.agent.gone || w.agent.closing then []
  else (w.enter t).processEvents o raise raised t n

/-- The entries of a notification that the engine is made to raise. -/
def raiseEvents (o : Observers γ σ) : Nat → ThreadId → RaiseEvents δ κ γ σ
  | 0, _ => fun _ _ => []
  | limit + 1, t => fun stimulus w =>
    match stimulus with
    | .started id renew =>
      w.deliverEvents o (raise o limit t) (raiseEvents o limit t) t (.report id (.started renew))
    | .answered id status expires =>
      match w.agent.engine.answer id status expires with
      | none => []
      | some (info, engine) =>
        let w := { w with agent := { w.agent with engine } }
        w.deliverEvents o (raise o limit t) (raiseEvents o limit t) t (.report id (.info info))
    | .decode event =>
      w.deliverEvents o (raise o limit t) (raiseEvents o limit t) t (.decode event)

/-- The entries that a notification makes, whatever the engine's own books say. -/
def notifyEvents (o : Observers γ σ) (limit : Nat) (t : ThreadId) (n : Notification)
    (w : World δ κ γ σ) : List AccountEvent :=
  w.deliverEvents o (raise o limit t) (raiseEvents o limit t) t n

/-- The entries that an operation makes. -/
def stepEvents (o : Observers γ σ) (limit : Nat) (w : World δ κ γ σ) :
    AgentOp γ → List AccountEvent
  | .ask t request => request.events w.agent (w.perform t request).1
  | .notify t n => w.notifyEvents o limit t n
  | .raise t stimulus => raiseEvents o limit t stimulus w
  | .foreign t known call =>
    match call.notification? with
    | some n => if known then w.notifyEvents o limit t n else []
    | none => []
  | .engine _ => []
  | .drop => []

/-- The entries that a run makes. -/
def runEvents (o : Observers γ σ) (limit : Nat) (w : World δ κ γ σ) :
    List (AgentOp γ) → List AccountEvent
  | [] => []
  | op :: ops => w.stepEvents o limit op ++ runEvents o limit (w.step o limit op) ops

/-! ### Reports, by whether their account is known -/

section

variable {raise' : Raise δ κ γ σ} {raised : RaiseEvents δ κ γ σ} {o : Observers γ σ}
  {t : ThreadId} {id : AccountId} {report : RegReport} {w : World δ κ γ σ}

lemma process_of_none (h : w.agent.enter? id report = none) :
    w.process o raise' t (.report id report) = w := by
  simp only [process, h]

lemma process_of_some {agent : Agent δ κ γ} (h : w.agent.enter? id report = some agent) :
    w.process o raise' t (.report id report)
      = (react raise' t (o.onReport id report) { w with agent }).2 := by
  simp only [process, h]

lemma processEvents_of_none (h : w.agent.enter? id report = none) :
    w.processEvents o raise' raised t (.report id report) = [] := by
  simp only [processEvents, h]

lemma processEvents_of_some {agent : Agent δ κ γ} (h : w.agent.enter? id report = some agent) :
    w.processEvents o raise' raised t (.report id report)
      = .reported id report
        :: reactEvents raise' raised t (o.onReport id report) { w with agent } := by
  simp only [processEvents, h]

end

/-! ### Runs are traces of single steps -/

open Agent (Step Trace)

/-- However notifications are raised, their entries are those of a trace. -/
def Traces (raise : Raise δ κ γ σ) (raised : RaiseEvents δ κ γ σ) : Prop :=
  ∀ stimulus w, Trace w.agent (raised stimulus w) (raise stimulus w).2.agent

variable {raise' : Raise δ κ γ σ} {raised : RaiseEvents δ κ γ σ}

lemma trace_react (h : Traces raise' raised) (t : ThreadId) (r : Reaction γ σ)
    (w : World δ κ γ σ) :
    Trace w.agent (reactEvents raise' raised t r w) (react raise' t r w).2.agent := by
  induction r generalizing w with
  | done => exact .nil w.agent
  | abort => exact .nil w.agent
  | note change next ih => exact ih { w with notes := change w.notes }
  | look next ih => exact ih w.notes w
  | ask request next ih =>
    exact .cons (.performed t request w.agent)
      (ih (w.agent.perform t request).1 { w with agent := (w.agent.perform t request).2 })
  | raise stimulus next ih =>
    exact (h stimulus w).append (ih (raise' stimulus w).1 (raise' stimulus w).2)

lemma trace_offerAll (h : Traces raise' raised) (o : Observers γ σ) (t : ThreadId)
    (callee : String) (data : List Bytes) (w : World δ κ γ σ) :
    Trace w.agent (offerEvents o raise' raised t callee data w)
      (offerAll o raise' t callee data w).agent := by
  induction data generalizing w with
  | nil => exact .nil w.agent
  | cons still rest ih =>
    have hdispatch (f : Dispatch γ → Dispatch γ) (w : World δ κ γ σ) :
        Step w.agent [] (w.mapDispatch f).agent :=
      .dispatched (f w.agent.pipeline.dispatch) w.agent
    unfold offerEvents offerAll
    cases hconsumer : w.agent.pipeline.dispatch.consumer with
    | none => exact .cons (hdispatch Dispatch.countDiscarded w) (ih _)
    | some consumer =>
      have hreact := trace_react h t (o.consume consumer callee still) w
      dsimp only
      rcases hr : react raise' t (o.consume consumer callee still) w with ⟨_ | _, w'⟩
      · -- the consumer has broken off, and nothing more is offered
        rw [hr] at hreact
        simpa using hreact
      · rw [hr] at hreact
        exact hreact.append (.cons (hdispatch Dispatch.countDelivered w') (ih _))

lemma trace_process (h : Traces raise' raised) (o : Observers γ σ) (t : ThreadId)
    (n : Notification) {w : World δ κ γ σ} (hopen : w.agent.closing = false) :
    Trace w.agent (w.processEvents o raise' raised t n) (w.process o raise' t n).agent := by
  cases n with
  | report id report =>
    cases henter : w.agent.enter? id report with
    | none =>
      rw [processEvents_of_none henter, process_of_none henter]
      exact .nil w.agent
    | some agent =>
      rw [processEvents_of_some henter, process_of_some henter]
      exact .cons (.reported hopen henter)
        (trace_react h t (o.onReport id report) { w with agent })
  | decode event =>
    have hprepared : Step w.agent [] { w.agent with pipeline := _ } := .prepared event hopen
    simp only [processEvents, process]
    rcases hp : w.agent.pipeline.prepare event with ⟨outcome | data, pipeline⟩
    · rw [hp] at hprepared
      exact .single hprepared
    · rw [hp] at hprepared
      exact .cons hprepared (trace_offerAll h o t event.callee data
        { w with agent := { w.agent with pipeline } })

lemma trace_deliver (h : Traces raise' raised) (o : Observers γ σ) (t : ThreadId)
    (n : Notification) (w : World δ κ γ σ) :
    Trace w.agent (w.deliverEvents o raise' raised t n) (w.deliver o raise' t n).agent := by
  unfold deliverEvents deliver
  cases hgone : w.agent.gone with
  | true => exact .nil w.agent
  | false =>
    have hregistered : Step w.agent [] (w.enter t).agent := .registered t w.agent
    cases hclosing : w.agent.closing with
    | true => simpa [hclosing, leave] using Trace.single hregistered
    | false =>
      have hprocess := trace_process h o t n ((closing_enter t w).trans hclosing)
      simpa [hclosing, leave] using Trace.cons hregistered hprocess

lemma traces_raise (o : Observers γ σ) (limit : Nat) (t : ThreadId) :
    Traces (raise (δ := δ) (κ := κ) o limit t) (raiseEvents o limit t) := by
  induction limit with
  | zero => exact fun stimulus w => .nil w.agent
  | succ limit ih =>
    intro stimulus w
    cases stimulus with
    | started id renew => exact trace_deliver ih o t _ w
    | decode event => exact trace_deliver ih o t _ w
    | answered id status expires =>
      cases hanswer : w.agent.engine.answer id status expires with
      | none =>
        simp only [raiseEvents, raise, hanswer]
        exact .nil w.agent
      | some x =>
        simp only [raiseEvents, raise, hanswer]
        -- the engine takes note of the answer before it tells the agent
        exact .cons (.engine x.2 w.agent) (trace_deliver ih o t (.report id (.info x.1))
          { w with agent := { w.agent with engine := x.2 } })

lemma trace_notify (o : Observers γ σ) (limit : Nat) (t : ThreadId) (n : Notification)
    (w : World δ κ γ σ) :
    Trace w.agent (w.notifyEvents o limit t n) (w.notify o limit t n).agent :=
  trace_deliver (traces_raise o limit t) o t n w

lemma trace_step (o : Observers γ σ) (limit : Nat) (w : World δ κ γ σ) (op : AgentOp γ) :
    Trace w.agent (w.stepEvents o limit op) (w.step o limit op).agent := by
  cases op with
  | ask t request => exact .single (.performed t request w.agent)
  | notify t n => exact trace_notify o limit t n w
  | raise t stimulus => exact traces_raise o limit t stimulus w
  | foreign t known call =>
    unfold stepEvents step World.foreign
    dsimp only
    cases call.notification? with
    | none => exact .nil w.agent
    | some n =>
      cases known with
      | false => exact .nil w.agent
      | true => exact trace_notify o limit t n w
  | engine change => exact .single (.engine (change w.agent.engine) w.agent)
  | drop => exact .single (.dropped w.agent)

/-- A run is a trace of single steps with the entries of the run. -/
lemma trace_run (o : Observers γ σ) (limit : Nat) (w : World δ κ γ σ) (ops : List (AgentOp γ)) :
    Trace w.agent (w.runEvents o limit ops) (w.run o limit ops).agent := by
  induction ops generalizing w with
  | nil => exact .nil w.agent
  | cons op ops ih => exact (w.trace_step o limit op).append (ih (w.step o limit op))

end World
end SipStills
