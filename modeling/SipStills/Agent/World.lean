/-
# Notifications

A world is an agent together with its observers' notes.  The engine notifies the agent; the
agent enters what it learns into its books and lets the observers react.  Reactions may raise
further notifications, which are delivered on the spot, on the same thread.

A reaction that breaks off ends the body of its own notification and nothing else: whoever
raised the notification goes on.  The nesting of notifications is bounded by a limit, beyond
which nothing is raised.

Main definitions: `World.deliver`, `World.raise`.
-/
import SipStills.Agent.InFlight
import SipStills.Agent.Reaction

namespace SipStills

/-- An agent and the notes of its observers. -/
structure World (δ κ γ σ : Type) where
  /-- The agent. -/
  agent : Agent δ κ γ
  /-- The notification bodies that are under way. -/
  inFlight : InFlight := {}
  /-- The observers' notes. -/
  notes : σ

/-- What the agent is notified of. -/
inductive Notification where
  /-- A report about an account. -/
  | report (id : AccountId) (report : RegReport)
  /-- A packet of video. -/
  | decode (event : DecodeEvent)
deriving DecidableEq

/-- How a notification is raised: with the answer, whether it was about a known account. -/
abbrev Raise (δ κ γ σ : Type) := Stimulus → World δ κ γ σ → Bool × World δ κ γ σ

namespace World

variable {δ κ γ σ : Type}

/-- Carries out a reaction on a thread; says whether it came to its end. -/
def react (raise : Raise δ κ γ σ) (t : ThreadId) :
    Reaction γ σ → World δ κ γ σ → Bool × World δ κ γ σ
  | .done, w => (true, w)
  | .abort, w => (false, w)
  | .note change next, w => react raise t next { w with notes := change w.notes }
  | .look next, w => react raise t (next w.notes) w
  | .ask request next, w =>
    let r := w.agent.perform t request
    react raise t (next r.1) { w with agent := r.2 }
  | .raise stimulus next, w =>
    let r := raise stimulus w
    react raise t (next r.1) r.2

/-- The world with another dispatch. -/
def mapDispatch (f : Dispatch γ → Dispatch γ) (w : World δ κ γ σ) : World δ κ γ σ :=
  { w with
    agent := { w.agent with
      pipeline := { w.agent.pipeline with dispatch := f w.agent.pipeline.dispatch } } }

/-- Offers stills to the consumer one after the other.  A consumer that breaks off has not got
the still, and the ones behind it are dropped. -/
def offerAll (o : Observers γ σ) (raise : Raise δ κ γ σ) (t : ThreadId) (callee : String) :
    List Bytes → World δ κ γ σ → World δ κ γ σ
  | [], w => w
  | data :: rest, w =>
    match w.agent.pipeline.dispatch.consumer with
    | none => offerAll o raise t callee rest (w.mapDispatch Dispatch.countDiscarded)
    | some consumer =>
      match react raise t (o.consume consumer callee data) w with
      | (true, w) => offerAll o raise t callee rest (w.mapDispatch Dispatch.countDelivered)
      | (false, w) => w

/-- The body of a notification: the books are brought up to date, then the observers react. -/
def process (o : Observers γ σ) (raise : Raise δ κ γ σ) (t : ThreadId) (n : Notification)
    (w : World δ κ γ σ) : World δ κ γ σ :=
  match n with
  | .report id report =>
    match w.agent.enter? id report with
    | none => w
    | some agent => (react raise t (o.onReport id report) { w with agent }).2
  | .decode event =>
    let r := w.agent.pipeline.prepare event
    let w := { w with agent := { w.agent with pipeline := r.2 } }
    match r.1 with
    | .settled _ => w
    | .stills data => w.offerAll o raise t event.callee data

/-- A body begins on a thread, which is registered. -/
def enter (t : ThreadId) (w : World δ κ γ σ) : World δ κ γ σ :=
  { w with
    agent := w.agent.ensureThread t
    inFlight := w.inFlight.enter ⟨w.agent.number, t⟩ }

/-- A body ends on a thread. -/
def leave (t : ThreadId) (w : World δ κ γ σ) : World δ κ γ σ :=
  { w with inFlight := w.inFlight.leave ⟨w.agent.number, t⟩ }

/-- Delivers a notification.  After the teardown has begun it has no effect but that its
thread is registered, and none at all if the agent is gone.

The locks that put in order the reports about one account, and the packets of one session, are
not modelled.  A reaction that raises a report about the account it is called for, or a packet of
the open session whose still it is handed, waits for itself in the program and never returns; the
runs with such a reaction are more than the program has. -/
def deliver (o : Observers γ σ) (raise : Raise δ κ γ σ) (t : ThreadId) (n : Notification)
    (w : World δ κ γ σ) : World δ κ γ σ :=
  if w.agent.gone then w
  else
    let w := w.enter t
    let w := if w.agent.closing then w else w.process o raise t n
    w.leave t

/-- Makes the engine raise a notification on a thread.  An answer is recorded by the engine
first; of an account that it does not hold nothing is raised. -/
def raise (o : Observers γ σ) : Nat → ThreadId → Raise δ κ γ σ
  | 0, _ => fun _ w => (false, w)
  | limit + 1, t => fun stimulus w =>
    match stimulus with
    | .started id renew =>
      (true, w.deliver o (raise o limit t) t (.report id (.started renew)))
    | .answered id status expires =>
      match w.agent.engine.answer id status expires with
      | none => (false, w)
      | some (info, engine) =>
        let w := { w with agent := { w.agent with engine } }
        (true, w.deliver o (raise o limit t) t (.report id (.info info)))
    | .decode event => (true, w.deliver o (raise o limit t) t (.decode event))

/-- Notifies the agent on a thread, whatever the engine's own books say. -/
def notify (o : Observers γ σ) (limit : Nat) (t : ThreadId) (n : Notification)
    (w : World δ κ γ σ) : World δ κ γ σ :=
  w.deliver o (raise o limit t) t n

/-- Carries out a request on a thread. -/
def perform (t : ThreadId) (r : Request γ) (w : World δ κ γ σ) : r.Answer × World δ κ γ σ :=
  let x := w.agent.perform t r
  (x.1, { w with agent := x.2 })

/-! ### More than one thread -/

/-- Answers the registrations that wait for it, each from a thread of its own; `first` is the
first of these threads. -/
def answerAll (o : Observers γ σ) (limit : Nat) (first : ThreadId) (w : World δ κ γ σ) :
    World δ κ γ σ :=
  let due := w.agent.engine.unanswered
  let w := { w with agent := { w.agent with engine := { w.agent.engine with unanswered := [] } } }
  due.zipIdx.foldl
    (fun w x =>
      let t := first + x.2
      let w := (raise o limit t (.started x.1.1 false) w).2
      (raise o limit t (.answered x.1.1 .ok x.1.2) w).2)
    w

/-- What is seen while a teardown waits: the engine's stage and its teardown commands. -/
structure Waiting where
  /-- The stage of the engine. -/
  state : EngineState
  /-- The number of teardown commands that the engine has received. -/
  destroys : Nat
deriving DecidableEq

/-- What a teardown that waits now would see. -/
def waiting (w : World δ κ γ σ) : Waiting :=
  ⟨w.agent.engine.state, w.agent.engine.count .destroy⟩

/-- A teardown on thread `b` that begins while the body of a decode event is under way on
thread `a`.  Unless it is let through it waits until the body has ended. -/
def destroyDuring (o : Observers γ σ) (limit : Nat) (a b : ThreadId) (event : DecodeEvent)
    (w : World δ κ γ σ) : Waiting × Except Fault Unit × World δ κ γ σ :=
  let w := w.enter a
  let body (w : World δ κ γ σ) : World δ κ γ σ :=
    (w.process o (raise o limit a) a (.decode event)).leave a
  if w.agent.closing then
    let w := w.leave a
    (w.waiting, .ok (), w)
  else
    let w := { w with agent := w.agent.beginDestroy }
    let finish (w : World δ κ γ σ) : Except Fault Unit × World δ κ γ σ :=
      let r := w.agent.finishDestroy b
      (r.1, { w with agent := r.2 })
    if w.inFlight.letsThrough w.agent.number b then
      let r := finish w
      (r.2.waiting, r.1, body r.2)
    else
      let r := finish (body w)
      (w.waiting, r.1, r.2)

end World
end SipStills
