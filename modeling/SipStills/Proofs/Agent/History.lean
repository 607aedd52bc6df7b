/-
# The history of a run

A run consists of single acts (`Act`).  `World.history` lists all of them in the order in which
they begin, each with the agent as it was just before, so that whatever is to be known about an
act can be read off its entry.  Acts of an observer stand behind the act that it reacts to.

Whoever wants to know something of all histories says it as a relation between a world, the acts,
and the world after them, and shows that it follows the pieces that notifications are made of
(`World.Follows`); then it holds of all runs.  In this way a history is a course of events
(`Agent.Course`): one act leads to the next, and what a consumer does with a still stands between
the time at which the still is handed over and the time at which it is counted.

* `World.Follows.run`: what follows the pieces of notifications holds of runs.
* `World.course_run`: the history of a run leads from its first agent to its last one.
* `Agent.Course.along`: what every act keeps, given the acts before it, is so at every act.
-/
import SipStills.Proofs.Agent.Runs

namespace SipStills

variable {δ κ γ σ : Type}

/-- What happens to an agent at one time. -/
inductive Act (γ : Type) where
  /-- A request is carried out on a thread. -/
  | perform (t : ThreadId) (request : Request γ)
  /-- A thread is registered with the engine. -/
  | register (t : ThreadId)
  /-- A report is entered into the record of its account. -/
  | enter (id : AccountId) (report : RegReport)
  /-- Stills are prepared of an event. -/
  | prepare (event : DecodeEvent)
  /-- A still is dispatched: it is handed to the consumer, or dropped if there is none.  A consumer
  may break off, and then the dispatch does not return. -/
  | dispatch (callee : String) (data : Bytes) (returns : Bool)
  /-- Something happens on the engine's own side. -/
  | engine (change : Engine → Engine)
  /-- The owner lets go of the agent. -/
  | drop

/-- Acts, the oldest first, each with the agent as it was just before. -/
abbrev History (δ κ γ : Type) := List (Agent δ κ γ × Act γ)

/-! ### The acts of a run -/

namespace World

/-- How the acts of a notification that is raised are found. -/
abbrev RaiseHistory (δ κ γ σ : Type) := Stimulus → World δ κ γ σ → History δ κ γ

/-- The acts of a reaction. -/
def reactHistory (raise : Raise δ κ γ σ) (raised : RaiseHistory δ κ γ σ) (t : ThreadId) :
    Reaction γ σ → World δ κ γ σ → History δ κ γ
  | .done, _ => []
  | .abort, _ => []
  | .note change next, w => reactHistory raise raised t next { w with notes := change w.notes }
  | .look next, w => reactHistory raise raised t (next w.notes) w
  | .ask request next, w =>
    let r := w.agent.perform t request
    (w.agent, .perform t request)
      :: reactHistory raise raised t (next r.1) { w with agent := r.2 }
  | .raise stimulus next, w =>
    let r := raise stimulus w
    raised stimulus w ++ reactHistory raise raised t (next r.1) r.2

/-- The dispatches of stills, each with what the consumer does before the next one. -/
def offerHistory (o : Observers γ σ) (raise : Raise δ κ γ σ) (raised : RaiseHistory δ κ γ σ)
    (t : ThreadId) (callee : String) : List Bytes → World δ κ γ σ → History δ κ γ
  | [], _ => []
  | data :: rest, w =>
    match w.agent.pipeline.dispatch.consumer with
    | none =>
      (w.agent, .dispatch callee data true)
        :: offerHistory o raise raised t callee rest (w.mapDispatch Dispatch.countDiscarded)
    | some consumer =>
      let reaction := o.consume consumer callee data
      let acts := reactHistory raise raised t reaction w
      match react raise t reaction w with
      | (true, w') =>
        (w.agent, .dispatch callee data true) :: acts
          ++ offerHistory o raise raised t callee rest (w'.mapDispatch Dispatch.countDelivered)
      | (false, _) => (w.agent, .dispatch callee data false) :: acts

/-- The acts in the body of a notification. -/
def processHistory (o : Observers γ σ) (raise : Raise δ κ γ σ) (raised : RaiseHistory δ κ γ σ)
    (t : ThreadId) (n : Notification) (w : World δ κ γ σ) : History δ κ γ :=
  match n with
  | .report id report =>
    match w.agent.enter? id report with
    | none => []
    | some agent =>
      (w.agent, .enter id report)
        :: reactHistory raise raised t (o.onReport id report) { w with agent }
  | .decode event =>
    let r := w.agent.pipeline.prepare event
    let w' := { w with agent := { w.agent with pipeline := r.2 } }
    (w.agent, .prepare event)
      :: match r.1 with
        | .settled _ => []
        | .stills data => w'.offerHistory o raise raised t event.callee data

/-- The acts that a notification causes. -/
def deliverHistory (o : Observers γ σ) (raise : Raise δ κ γ σ) (raised : RaiseHistory δ κ γ σ)
    (t : ThreadId) (n : Notification) (w : World δ κ γ σ) : History δ κ γ :=
  if w.agent.gone then []
  else
    (w.agent, .register t)
      :: if w.agent.closing then [] else (w.enter t).processHistory o raise raised t n

/-- The acts that a notification causes which the engine is made to raise. -/
def raiseHistory (o : Observers γ σ) : Nat → ThreadId → RaiseHistory δ κ γ σ
  | 0, _ => fun _ _ => []
  | limit + 1, t => fun stimulus w =>
    match stimulus with
    | .started id renew =>
      w.deliverHistory o (raise o limit t) (raiseHistory o limit t) t
        (.report id (.started renew))
    | .answered id status expires =>
      match w.agent.engine.answer id status expires with
      | none => []
      | some (info, engine) =>
        let w' := { w with agent := { w.agent with engine } }
        (w.agent, .engine fun e => (e.apply (.answer id status expires)).2)
          :: w'.deliverHistory o (raise o limit t) (raiseHistory o limit t) t
            (.report id (.info info))
    | .decode event =>
      w.deliverHistory o (raise o limit t) (raiseHistory o limit t) t (.decode event)

/-- The acts that a notification causes, whatever the engine's own books say. -/
def notifyHistory (o : Observers γ σ) (limit : Nat) (t : ThreadId) (n : Notification)
    (w : World δ κ γ σ) : History δ κ γ :=
  w.deliverHistory o (raise o limit t) (raiseHistory o limit t) t n

/-- The acts of an operation. -/
def stepHistory (o : Observers γ σ) (limit : Nat) (w : World δ κ γ σ) :
    AgentOp γ → History δ κ γ
  | .ask t request => [(w.agent, .perform t request)]
  | .notify t n => w.notifyHistory o limit t n
  | .raise t stimulus => raiseHistory o limit t stimulus w
  | .foreign t known call =>
    match call.notification? with
    | some n => if known then w.notifyHistory o limit t n else []
    | none => []
  | .engine change => [(w.agent, .engine change)]
  | .drop => [(w.agent, .drop)]

/-- The acts of a run. -/
def history (o : Observers γ σ) (limit : Nat) (w : World δ κ γ σ) :
    List (AgentOp γ) → History δ κ γ
  | [] => []
  | op :: ops => w.stepHistory o limit op ++ history o limit (w.step o limit op) ops

end World

/-! ### Courses of events -/

/-- What can happen to an engine on its own side. -/
abbrev Changes := (Engine → Engine) → Prop

/-- The changes that are operations of the engine, of a given kind. -/
def Changes.byOps (kind : EngineOp → Prop) : Changes := fun change =>
  ∃ op, kind op ∧ change = fun e => (e.apply op).2

/-- The operation changes the engine in no other way than is allowed, if it passes by the agent. -/
def AgentOp.Within (allowed : Changes) : AgentOp γ → Prop
  | .engine change => allowed change
  | _ => True

namespace Agent

/-- The agent with another dispatch. -/
def mapDispatch (f : Dispatch γ → Dispatch γ) (a : Agent δ κ γ) : Agent δ κ γ :=
  { a with pipeline := { a.pipeline with dispatch := f a.pipeline.dispatch } }

/-- What an act does to the agent.  Dispatches take time and are dealt with in `Course`. -/
inductive Does (allowed : Changes) : Agent δ κ γ → Act γ → Agent δ κ γ → Prop where
  | performed (t : ThreadId) (r : Request γ) (a : Agent δ κ γ) :
      Does allowed a (.perform t r) (a.perform t r).2
  | registered (t : ThreadId) (a : Agent δ κ γ) : Does allowed a (.register t) (a.ensureThread t)
  | entered {a a' : Agent δ κ γ} {id : AccountId} {report : RegReport}
      (h : a.enter? id report = some a') : Does allowed a (.enter id report) a'
  | prepared (e : DecodeEvent) (a : Agent δ κ γ) :
      Does allowed a (.prepare e) { a with pipeline := (a.pipeline.prepare e).2 }
  | changed {change : Engine → Engine} (h : allowed change) (a : Agent δ κ γ) :
      Does allowed a (.engine change) { a with engine := change a.engine }
  | dropped (a : Agent δ κ γ) : Does allowed a .drop a.drop

/-- A history that leads from one agent to another. -/
inductive Course (allowed : Changes) : Agent δ κ γ → History δ κ γ → Agent δ κ γ → Prop where
  | nil (a : Agent δ κ γ) : Course allowed a [] a
  | act {a a' : Agent δ κ γ} {x : Act γ} (h : Does allowed a x a') : Course allowed a [(a, x)] a'
  /-- A still is dropped since there is no consumer. -/
  | dropped {a : Agent δ κ γ} (callee : String) (data : Bytes)
      (h : a.pipeline.dispatch.consumer = none) :
      Course allowed a [(a, .dispatch callee data true)] (a.mapDispatch Dispatch.countDiscarded)
  /-- A still is handed to the consumer, and is counted when the consumer has come to an end. -/
  | taken {a a' : Agent δ κ γ} {acts : History δ κ γ} {consumer : γ} (callee : String)
      (data : Bytes) (h : a.pipeline.dispatch.consumer = some consumer)
      (hacts : Course allowed a acts a') :
      Course allowed a ((a, .dispatch callee data true) :: acts)
        (a'.mapDispatch Dispatch.countDelivered)
  /-- A still is handed to the consumer, which breaks off. -/
  | brokenOff {a a' : Agent δ κ γ} {acts : History δ κ γ} {consumer : γ} (callee : String)
      (data : Bytes) (h : a.pipeline.dispatch.consumer = some consumer)
      (hacts : Course allowed a acts a') :
      Course allowed a ((a, .dispatch callee data false) :: acts) a'
  | append {a a' a'' : Agent δ κ γ} {acts acts' : History δ κ γ}
      (h : Course allowed a acts a') (h' : Course allowed a' acts' a'') :
      Course allowed a (acts ++ acts') a''

lemma Course.cons {allowed : Changes} {a a' a'' : Agent δ κ γ} {x : Act γ} {acts : History δ κ γ}
    (h : Does allowed a x a') (h' : Course allowed a' acts a'') :
    Course allowed a ((a, x) :: acts) a'' := .append (.act h) h'

/-! ### What is kept along a course -/

/-- What is said of the entries so far and of the agent then is so at every entry of a list, which
`before` comes before. -/
def Along {ξ : Type} (P : List (Agent δ κ γ × ξ) → Agent δ κ γ → Prop)
    (before : List (Agent δ κ γ × ξ)) : List (Agent δ κ γ × ξ) → Prop
  | [] => True
  | x :: acts => P before x.1 ∧ Along P (before ++ [x]) acts

/-- Every act keeps what is said of the acts so far and of the agent then. -/
structure Kept (allowed : Changes) (P : History δ κ γ → Agent δ κ γ → Prop) : Prop where
  act : ∀ {before : History δ κ γ} {a a' : Agent δ κ γ} {x : Act γ},
    P before a → Does allowed a x a' → P (before ++ [(a, x)]) a'
  dispatched : ∀ {before : History δ κ γ} {a : Agent δ κ γ} (callee : String) (data : Bytes)
    (returns : Bool), P before a → P (before ++ [(a, .dispatch callee data returns)]) a
  counted : ∀ {before : History δ κ γ} {a : Agent δ κ γ} (f : Dispatch γ → Dispatch γ),
    P before a → P before (a.mapDispatch f)

section

variable {ξ : Type} {P : List (Agent δ κ γ × ξ) → Agent δ κ γ → Prop}

lemma along_append {before acts acts' : List (Agent δ κ γ × ξ)} (h : Along P before acts)
    (h' : Along P (before ++ acts) acts') : Along P before (acts ++ acts') := by
  induction acts generalizing before with
  | nil => simpa using h'
  | cons x acts ih => exact ⟨h.1, ih h.2 (by simpa using h')⟩

lemma Along.at_split {before earlier later : List (Agent δ κ γ × ξ)} {x : Agent δ κ γ × ξ}
    (h : Along P before (earlier ++ x :: later)) : P (before ++ earlier) x.1 := by
  induction earlier generalizing before with
  | nil => simpa using h.1
  | cons y earlier ih => simpa using ih h.2

end

/-- What every act keeps is so at every act of a course and at its end. -/
lemma Course.along {P : History δ κ γ → Agent δ κ γ → Prop} {allowed : Changes}
    (hP : Kept allowed P) {a a' : Agent δ κ γ} {acts : History δ κ γ}
    (h : Course allowed a acts a') {before : History δ κ γ} (ha : P before a) :
    Along P before acts ∧ P (before ++ acts) a' := by
  induction h generalizing before with
  | nil a => exact ⟨trivial, by simpa using ha⟩
  | act h => exact ⟨⟨ha, trivial⟩, hP.act ha h⟩
  | dropped callee data h =>
    exact ⟨⟨ha, trivial⟩, hP.counted _ (hP.dispatched callee data true ha)⟩
  | taken callee data h hacts ih =>
    obtain ⟨halong, hend⟩ := ih (hP.dispatched callee data true ha)
    exact ⟨⟨ha, halong⟩, hP.counted _ (by simpa using hend)⟩
  | brokenOff callee data h hacts ih =>
    obtain ⟨halong, hend⟩ := ih (hP.dispatched callee data false ha)
    exact ⟨⟨ha, halong⟩, by simpa using hend⟩
  | append h h' ih ih' =>
    obtain ⟨halong, hend⟩ := ih ha
    obtain ⟨halong', hend'⟩ := ih' hend
    exact ⟨along_append halong halong', by simpa using hend'⟩

end Agent

/-- The act that an operation consists in, if it is one of the owner's or one on the engine's own
side. -/
def AgentOp.act? : AgentOp γ → Option (Act γ)
  | .ask t request => some (.perform t request)
  | .engine change => some (.engine change)
  | .drop => some .drop
  | .notify _ _ | .raise _ _ | .foreign _ _ _ => none

/-! ### What follows the histories of worlds -/

namespace World

/-- However notifications are raised, the relation holds of the world before, of their acts, and of
the world after them. -/
def Raises (R : World δ κ γ σ → History δ κ γ → World δ κ γ σ → Prop) (raise : Raise δ κ γ σ)
    (raised : RaiseHistory δ κ γ σ) : Prop :=
  ∀ stimulus w, R w (raised stimulus w) (raise stimulus w).2

/-- The relation follows the definitions of `SipStills.Agent.World`: it holds of each piece that a
notification is made of.  Of what observers do it need hold only together with the act that they
react to. -/
structure Follows (o : Observers γ σ)
    (R : World δ κ γ σ → History δ κ γ → World δ κ γ σ → Prop) : Prop where
  nil : ∀ w, R w [] w
  append : ∀ {w w' w'' : World δ κ γ σ} {acts acts' : History δ κ γ},
    R w acts w' → R w' acts' w'' → R w (acts ++ acts') w''
  entered : ∀ t w, R w [(w.agent, .register t)] (w.enter t)
  left : ∀ t w, R w [] (w.leave t)
  reported : ∀ {raise : Raise δ κ γ σ} {raised : RaiseHistory δ κ γ σ}, Raises R raise raised →
    ∀ (t : ThreadId) {w : World δ κ γ σ} {id : AccountId} {report : RegReport}
      {agent : Agent δ κ γ}, w.agent.enter? id report = some agent →
      R w ((w.agent, .enter id report)
          :: reactHistory raise raised t (o.onReport id report) { w with agent })
        (react raise t (o.onReport id report) { w with agent }).2
  prepared : ∀ (event : DecodeEvent) (w : World δ κ γ σ),
    R w [(w.agent, .prepare event)]
      { w with agent := { w.agent with pipeline := (w.agent.pipeline.prepare event).2 } }
  discarded : ∀ (callee : String) (data : Bytes) {w : World δ κ γ σ},
    w.agent.pipeline.dispatch.consumer = none →
      R w [(w.agent, .dispatch callee data true)] (w.mapDispatch Dispatch.countDiscarded)
  offered : ∀ {raise : Raise δ κ γ σ} {raised : RaiseHistory δ κ γ σ}, Raises R raise raised →
    ∀ (t : ThreadId) (callee : String) (data : Bytes) {w : World δ κ γ σ} {consumer : γ},
      w.agent.pipeline.dispatch.consumer = some consumer →
      let reaction := o.consume consumer callee data
      let r := react raise t reaction w
      R w ((w.agent, .dispatch callee data r.1) :: reactHistory raise raised t reaction w)
        (if r.1 then r.2.mapDispatch Dispatch.countDelivered else r.2)
  answered : ∀ {w : World δ κ γ σ} {id : AccountId} {status : StatusCode} {expires : UInt32}
    {x : AccountInfo × Engine}, w.agent.engine.answer id status expires = some x →
      R w [(w.agent, .engine fun e => (e.apply (.answer id status expires)).2)]
        { w with agent := { w.agent with engine := x.2 } }

namespace Follows

variable {o : Observers γ σ} {R : World δ κ γ σ → History δ κ γ → World δ κ γ σ → Prop}
  {raise' : Raise δ κ γ σ} {raised : RaiseHistory δ κ γ σ} (hR : Follows o R)

include hR

lemma cons {w w' w'' : World δ κ γ σ} {x : Agent δ κ γ × Act γ} {acts : History δ κ γ}
    (h : R w [x] w') (h' : R w' acts w'') : R w (x :: acts) w'' := hR.append h h'

lemma leave {w w' : World δ κ γ σ} {acts : History δ κ γ} (t : ThreadId) (h : R w acts w') :
    R w acts (w'.leave t) := by
  simpa using hR.append h (hR.left t w')

lemma offerAll (h : Raises R raise' raised) (t : ThreadId) (callee : String) (data : List Bytes)
    (w : World δ κ γ σ) :
    R w (offerHistory o raise' raised t callee data w)
      (World.offerAll o raise' t callee data w) := by
  induction data generalizing w with
  | nil => exact hR.nil w
  | cons still rest ih =>
    unfold offerHistory World.offerAll
    cases hconsumer : w.agent.pipeline.dispatch.consumer with
    | none =>
      exact hR.cons (hR.discarded callee still hconsumer)
        (ih (w.mapDispatch Dispatch.countDiscarded))
    | some consumer =>
      have hoffered := hR.offered h t callee still hconsumer
      dsimp only at hoffered ⊢
      rcases hr : react raise' t (o.consume consumer callee still) w with ⟨_ | _, w'⟩
      · -- the consumer has broken off, and nothing more is dispatched
        rw [hr] at hoffered
        exact hoffered
      · rw [hr] at hoffered
        exact hR.append hoffered (ih (w'.mapDispatch Dispatch.countDelivered))

/-- The relation holds of the body of a notification, also of one that goes on after the teardown
has begun. -/
lemma process (h : Raises R raise' raised) (t : ThreadId) (n : Notification)
    (w : World δ κ γ σ) :
    R w (w.processHistory o raise' raised t n) (w.process o raise' t n) := by
  cases n with
  | report id report =>
    cases henter : w.agent.enter? id report with
    | none =>
      simp only [processHistory, World.process, henter]
      exact hR.nil w
    | some agent =>
      simp only [processHistory, World.process, henter]
      exact hR.reported h t henter
  | decode event =>
    have hprepared := hR.prepared event w
    simp only [processHistory, World.process]
    rcases hp : w.agent.pipeline.prepare event with ⟨outcome | data, pipeline⟩
    · rw [hp] at hprepared
      exact hprepared
    · rw [hp] at hprepared
      exact hR.cons hprepared (hR.offerAll h t event.callee data
        { w with agent := { w.agent with pipeline } })

lemma deliver (h : Raises R raise' raised) (t : ThreadId) (n : Notification)
    (w : World δ κ γ σ) :
    R w (w.deliverHistory o raise' raised t n) (w.deliver o raise' t n) := by
  unfold deliverHistory World.deliver
  cases w.agent.gone with
  | true => exact hR.nil w
  | false =>
    have hentered := hR.entered t w
    cases hclosing : w.agent.closing with
    | true => simpa [hclosing] using hR.leave t hentered
    | false =>
      have hprocess := hR.process h t n (w.enter t)
      simpa [hclosing] using hR.leave t (hR.cons hentered hprocess)

/-- The relation holds of whatever the engine is made to raise. -/
lemma raises (limit : Nat) (t : ThreadId) :
    Raises R (World.raise o limit t) (raiseHistory o limit t) := by
  induction limit with
  | zero => exact fun stimulus w => hR.nil w
  | succ limit ih =>
    intro stimulus w
    cases stimulus with
    | started id renew => exact hR.deliver ih t _ w
    | decode event => exact hR.deliver ih t _ w
    | answered id status expires =>
      cases hanswer : w.agent.engine.answer id status expires with
      | none =>
        simp only [raiseHistory, World.raise, hanswer]
        exact hR.nil w
      | some x =>
        simp only [raiseHistory, World.raise, hanswer]
        -- the engine takes note of the answer before it tells the agent
        exact hR.cons (hR.answered hanswer) (hR.deliver ih t (.report id (.info x.1))
          { w with agent := { w.agent with engine := x.2 } })

/-- The relation holds of an operation, if it does where the operation is a single act. -/
lemma step (limit : Nat) (w : World δ κ γ σ) {op : AgentOp γ}
    (hop : ∀ x, op.act? = some x → R w [(w.agent, x)] (w.step o limit op)) :
    R w (w.stepHistory o limit op) (w.step o limit op) := by
  have hnotify (t : ThreadId) (n : Notification) :
      R w (w.notifyHistory o limit t n) (w.notify o limit t n) :=
    hR.deliver (hR.raises limit t) t n w
  cases op with
  | ask t request => exact hop _ rfl
  | notify t n => exact hnotify t n
  | raise t stimulus => exact hR.raises limit t stimulus w
  | foreign t known call =>
    unfold stepHistory World.step World.foreign
    dsimp only
    cases call.notification? with
    | none => exact hR.nil w
    | some n =>
      cases known with
      | false => exact hR.nil w
      | true => exact hnotify t n
  | engine change => exact hop _ rfl
  | drop => exact hop _ rfl

/-- The relation holds of a run. -/
lemma run (limit : Nat) (w : World δ κ γ σ) {ops : List (AgentOp γ)}
    (hops : ∀ op ∈ ops, ∀ (w : World δ κ γ σ) (x : Act γ), op.act? = some x →
      R w [(w.agent, x)] (w.step o limit op)) :
    R w (w.history o limit ops) (w.run o limit ops) := by
  induction ops generalizing w with
  | nil => exact hR.nil w
  | cons op ops ih =>
    have hstep := hR.step limit w (hops op (by simp) w)
    exact hR.append hstep (ih (w.step o limit op) fun op' hop' => hops op' (by simp [hop']))

end Follows

/-! ### Histories are courses of events -/

open Agent (Course Does)

variable {allowed : Changes} {raise' : Raise δ κ γ σ} {raised : RaiseHistory δ κ γ σ}

/-- The acts lead from the one agent to the other. -/
def Leads (allowed : Changes) (w : World δ κ γ σ) (acts : History δ κ γ) (w' : World δ κ γ σ) :
    Prop :=
  Course allowed w.agent acts w'.agent

lemma leads_react (h : Raises (Leads allowed) raise' raised) (t : ThreadId) (r : Reaction γ σ)
    (w : World δ κ γ σ) :
    Leads allowed w (reactHistory raise' raised t r w) (react raise' t r w).2 := by
  induction r generalizing w with
  | done => exact .nil w.agent
  | abort => exact .nil w.agent
  | note change next ih => exact ih { w with notes := change w.notes }
  | look next ih => exact ih w.notes w
  | ask request next ih =>
    exact .cons (.performed t request w.agent)
      (ih (w.agent.perform t request).1 { w with agent := (w.agent.perform t request).2 })
  | raise stimulus next ih =>
    exact (h stimulus w).append (ih (raise' stimulus w).1 (raise' stimulus w).2)

/-- Among what is allowed are the answers of registrars. -/
def Changes.Answering (allowed : Changes) : Prop :=
  ∀ id status expires, allowed fun e => (e.apply (.answer id status expires)).2

lemma follows_leads (hanswering : Changes.Answering allowed) (o : Observers γ σ) :
    Follows (δ := δ) (κ := κ) o (Leads allowed) where
  nil w := .nil w.agent
  append h h' := .append h h'
  entered t w := .act (.registered t w.agent)
  left t w := .nil w.agent
  reported := by
    intro raise raised h t w id report agent henter
    have hreact : Leads allowed { w with agent } _ _ :=
      leads_react h t (o.onReport id report) { w with agent }
    exact .cons (.entered henter) hreact
  prepared event w := .act (.prepared event w.agent)
  discarded callee data _ hconsumer := .dropped callee data hconsumer
  offered := by
    intro raise raised h t callee data w consumer hconsumer reaction r
    have hreact : Leads allowed w (reactHistory raise raised t reaction w) r.2 :=
      leads_react h t reaction w
    cases hr : r.1 with
    | false => exact .brokenOff callee data hconsumer hreact
    | true => exact .taken callee data hconsumer hreact
  answered := by
    intro w id status expires x hanswer
    have hanswered := Does.changed (hanswering id status expires) w.agent
    simp only [Engine.apply, hanswer] at hanswered
    exact .act hanswered

lemma leads_act {op : AgentOp γ} (hop : op.Within allowed) (o : Observers γ σ) (limit : Nat)
    (w : World δ κ γ σ) {x : Act γ} (hx : op.act? = some x) :
    Leads allowed w [(w.agent, x)] (w.step o limit op) := by
  cases op with
  | ask t request =>
    obtain rfl := Option.some.inj hx
    exact .act (.performed t request w.agent)
  | engine change =>
    obtain rfl := Option.some.inj hx
    exact .act (.changed hop w.agent)
  | drop =>
    obtain rfl := Option.some.inj hx
    exact .act (.dropped w.agent)
  | notify t n | raise t stimulus | foreign t known call => exact absurd hx (by simp [AgentOp.act?])

/-- The acts of an operation lead from the agent before it to the one after it. -/
lemma course_step (hanswering : Changes.Answering allowed) (o : Observers γ σ) (limit : Nat)
    (w : World δ κ γ σ) {op : AgentOp γ} (hop : op.Within allowed) :
    Course allowed w.agent (w.stepHistory o limit op) (w.step o limit op).agent :=
  (follows_leads hanswering o).step limit w fun _ hx => leads_act hop o limit w hx

/-- The acts of a body lead from the agent before it to the one after it. -/
lemma course_process (hanswering : Changes.Answering allowed) (o : Observers γ σ) (limit : Nat)
    (t : ThreadId) (n : Notification) (w : World δ κ γ σ) :
    Course allowed w.agent (w.processHistory o (World.raise o limit t) (raiseHistory o limit t) t n)
      (w.process o (World.raise o limit t) t n).agent :=
  (follows_leads hanswering o).process ((follows_leads hanswering o).raises limit t) t n w

/-- The history of a run leads from its first agent to its last one. -/
lemma course_run (hanswering : Changes.Answering allowed) (o : Observers γ σ) (limit : Nat)
    (w : World δ κ γ σ) {ops : List (AgentOp γ)} (hops : ∀ op ∈ ops, op.Within allowed) :
    Course allowed w.agent (w.history o limit ops) (w.run o limit ops).agent :=
  (follows_leads hanswering o).run limit w fun op hop w _ hx => leads_act (hops op hop) o limit w hx

/-- An agent with a new engine and nothing else. -/
def bare : World Unit Unit Unit Unit where
  agent := { pipeline := { registry := {}, devices := () } }
  notes := ()

end World
end SipStills
