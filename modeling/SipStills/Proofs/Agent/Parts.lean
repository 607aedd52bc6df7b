/-
# Operations that take their time

An `AgentOp` is an operation from its begin to its end.  Where several threads are at work, others
come in between: a teardown begins and waits for the bodies of notifications, these go on and may
ask for anything, and a further teardown finds the first one under way and returns at once.  A
command that was let through some time ago reaches the engine, and an account that the engine has
accepted some time ago is entered into the directory.  `OpPart` are operations, and the parts of
those that take their time, in any order.

Notifications, teardowns and the creation of accounts are made of such parts
(`World.notify_eq_runParts`, `World.destroy_eq_runParts`, `World.createAccount_eq_runParts`), and
so is a teardown during the body of a decode event (`World.destroyDuring_eq_runParts`).  A teardown
that has begun is not taken back by any of them (`World.closing_runParts`).

Parts have a history as whole operations have one.  Its entries are deeds (`Deed`), which are acts,
the two halves of teardowns and the commands that reach the engine late; what all of them keep is so
at every deed (`World.along_deeds`).
-/
import SipStills.Proofs.Agent.History

namespace SipStills

variable {δ κ γ σ : Type}

/-- An operation, or a part of one that takes its time. -/
inductive OpPart (γ : Type) where
  /-- An operation, from its begin to its end. -/
  | whole (op : AgentOp γ)
  /-- The body of a notification begins on a thread. -/
  | bodyBegins (t : ThreadId)
  /-- The body goes on, having found that no teardown has begun. -/
  | bodyGoesOn (t : ThreadId) (n : Notification)
  /-- The body ends. -/
  | bodyEnds (t : ThreadId)
  /-- A teardown begins on a thread. -/
  | destroyBegins (t : ThreadId)
  /-- A teardown has waited long enough, and comes to its end. -/
  | destroyEnds (t : ThreadId)
  /-- A command that the agent has let through reaches the engine. -/
  | commandReaches (op : EngineOp)
  /-- An account that the engine has accepted is entered into the directory. -/
  | accountEntered (id : AccountId)

namespace Agent

/-- No teardown returns before one has begun. -/
lemma closing_destroy (t : ThreadId) (a : Agent δ κ γ) : (a.destroy t).2.closing = true := by
  unfold destroy
  split
  · assumption
  · rfl

lemma destroy_of_closing {a : Agent δ κ γ} (h : a.closing = true) (t : ThreadId) :
    a.destroy t = (.ok (), a) := by
  simp [destroy, h]

/-- A command that is let through registers the thread and reaches the engine. -/
lemma command_of_open {α : Type} {a : Agent δ κ γ} (h : a.closing = false) {op : EngineOp}
    {run : Engine → Except EngineStatus α × Engine} (hop : ∀ e : Engine, (e.apply op).2 = (run e).2)
    (operation : String) (t : ThreadId) :
    (a.command operation t run).2
      = { a.ensureThread t with engine := ((a.ensureThread t).engine.apply op).2 } := by
  simp [command, h, issue, hop]

/-- An account that is created has been accepted by the engine, and is entered then. -/
lemma eq_of_createAccount {a a' : Agent δ κ γ} {t : ThreadId} {settings : AccountSettings}
    {makeDefault : Bool} {id : AccountId}
    (h : a.createAccount t settings makeDefault = (.ok id, a')) :
    ∃ accepted, a.closing = false
      ∧ a.command "create account" t (Engine.addAccount settings makeDefault) = (.ok id, accepted)
      ∧ a' = { accepted with directory := accepted.directory.insert id } := by
  unfold createAccount at h
  split at h
  · exact absurd h (by simp)
  · split at h
    · exact absurd h (by simp)
    · rename_i hcommand
      obtain ⟨hid, ha'⟩ := Prod.mk.inj h
      obtain rfl := Except.ok.inj hid
      refine ⟨_, ?_, hcommand, ha'.symm⟩
      cases hopen : a.closing with
      | false => rfl
      | true => simp [command, hopen] at hcommand

lemma beginDestroy_of_closing {a : Agent δ κ γ} (h : a.closing = true) : a.beginDestroy = a := by
  obtain ⟨engine, gate, directory, pipeline, closing, gone, number⟩ := a
  obtain rfl : closing = true := h
  rfl

end Agent

namespace World

/-- A part of an operation. -/
def stepPart (o : Observers γ σ) (limit : Nat) (w : World δ κ γ σ) : OpPart γ → World δ κ γ σ
  | .whole op => w.step o limit op
  | .bodyBegins t => w.enter t
  | .bodyGoesOn t n => w.process o (raise o limit t) t n
  | .bodyEnds t => w.leave t
  | .destroyBegins _ => { w with agent := w.agent.beginDestroy }
  | .destroyEnds t => { w with agent := (w.agent.finishDestroy t).2 }
  | .commandReaches op =>
    { w with agent := { w.agent with engine := (w.agent.engine.apply op).2 } }
  | .accountEntered id =>
    { w with agent := { w.agent with directory := w.agent.directory.insert id } }

/-- Parts of operations one after the other. -/
def runParts (o : Observers γ σ) (limit : Nat) (w : World δ κ γ σ) (parts : List (OpPart γ)) :
    World δ κ γ σ :=
  parts.foldl (stepPart o limit) w

variable {w : World δ κ γ σ}

/-! ### Operations and their parts -/

/-- A notification that is taken up is a body that begins, goes on and ends. -/
lemma notify_eq_runParts (hopen : w.agent.closing = false) (hgone : w.agent.gone = false)
    (o : Observers γ σ) (limit : Nat) (t : ThreadId) (n : Notification) :
    w.notify o limit t n = w.runParts o limit [.bodyBegins t, .bodyGoesOn t n, .bodyEnds t] := by
  have hentered : (w.enter t).agent.closing = false := hopen
  simp only [notify, deliver, hgone, hentered, Bool.false_eq_true, if_false]
  rfl

/-- A teardown that finds no other one under way begins and comes to its end. -/
lemma destroy_eq_runParts (hopen : w.agent.closing = false) (o : Observers γ σ) (limit : Nat)
    (t : ThreadId) :
    (w.perform t .destroy).2 = w.runParts o limit [.destroyBegins t, .destroyEnds t] := by
  simp only [perform, Agent.perform, Agent.destroy, hopen, Bool.false_eq_true, if_false]
  rfl

/-- An account is created by a command that is let through, and is entered when the engine has
accepted it. -/
lemma createAccount_eq_runParts (o : Observers γ σ) (limit : Nat) {t : ThreadId}
    {settings : AccountSettings} {makeDefault : Bool} {id : AccountId}
    (h : (w.perform t (.createAccount settings makeDefault)).1 = .ok id) :
    (w.perform t (.createAccount settings makeDefault)).2
      = ({ w with agent := w.agent.ensureThread t } : World δ κ γ σ).runParts o limit
          [.commandReaches (.addAccount settings makeDefault), .accountEntered id] := by
  obtain ⟨a, hopen, hcommand, hentered⟩ := Agent.eq_of_createAccount (Prod.ext h rfl)
  have hop : ∀ e : Engine, (e.apply (.addAccount settings makeDefault)).2
      = (Engine.addAccount settings makeDefault e).2 := fun _ => rfl
  have hreaches := Agent.command_of_open hopen hop "create account" t
  rw [hcommand] at hreaches
  obtain rfl : a = _ := hreaches
  exact congrArg (fun a' => ({ w with agent := a' } : World δ κ γ σ)) hentered

/-- The parts of a teardown during the body of a decode event. -/
def duringParts (w : World δ κ γ σ) (a b : ThreadId) (event : DecodeEvent) : List (OpPart γ) :=
  if w.agent.closing then [.bodyBegins a, .whole (.ask b .destroy), .bodyEnds a]
  else if (w.enter a).inFlight.letsThrough w.agent.number b then
    [.bodyBegins a, .destroyBegins b, .destroyEnds b, .bodyGoesOn a (.decode event), .bodyEnds a]
  else
    [.bodyBegins a, .destroyBegins b, .bodyGoesOn a (.decode event), .bodyEnds a, .destroyEnds b]

lemma destroyDuring_eq_runParts (o : Observers γ σ) (limit : Nat) (a b : ThreadId)
    (event : DecodeEvent) (w : World δ κ γ σ) :
    (w.destroyDuring o limit a b event).2.2 = w.runParts o limit (w.duringParts a b event) := by
  cases hclosing : w.agent.closing with
  | true =>
    have hentered : (w.enter a).agent.closing = true := hclosing
    simp only [destroyDuring, duringParts, hclosing, hentered, if_true, runParts, List.foldl_cons,
      List.foldl_nil, stepPart, step, perform, Agent.perform, Agent.destroy_of_closing hentered]
  | false =>
    have hentered : (w.enter a).agent.closing = false := hclosing
    have hnumber : (w.enter a).agent.beginDestroy.number = w.agent.number := rfl
    simp only [destroyDuring, duringParts, hclosing, hentered, hnumber, Bool.false_eq_true,
      if_false]
    split <;> rfl

/-! ### Once a teardown has begun -/

/-- A body of a notification that goes on does not take back a teardown that has begun. -/
lemma closing_process {raise' : Raise δ κ γ σ} {raised : RaiseEvents δ κ γ σ}
    (htraces : Traces raise' raised) (o : Observers γ σ) (t : ThreadId) (n : Notification)
    (h : w.agent.closing = true) : (w.process o raise' t n).agent.closing = true := by
  cases n with
  | report id report =>
    cases henter : w.agent.enter? id report with
    | none => rwa [process_of_none henter]
    | some agent =>
      rw [process_of_some henter]
      have hagent : agent.closing = true := (Agent.closing_enter? henter).trans h
      exact (trace_react htraces t (o.onReport id report) { w with agent }).closing hagent
  | decode event =>
    simp only [process]
    rcases w.agent.pipeline.prepare event with ⟨outcome | data, pipeline⟩
    · exact h
    · exact (trace_offerAll htraces o t event.callee data
        { w with agent := { w.agent with pipeline } }).closing h

lemma closing_stepPart (h : w.agent.closing = true) (o : Observers γ σ) (limit : Nat)
    (part : OpPart γ) : (w.stepPart o limit part).agent.closing = true := by
  cases part with
  | whole op => exact (w.trace_step o limit op).closing h
  | bodyGoesOn t n => exact closing_process (traces_raise o limit t) o t n h
  | bodyBegins t | bodyEnds t | destroyEnds t | commandReaches op | accountEntered id => exact h
  | destroyBegins t => rfl

/-- A teardown that has begun is not taken back. -/
lemma closing_runParts (h : w.agent.closing = true) (o : Observers γ σ) (limit : Nat)
    (parts : List (OpPart γ)) : (w.runParts o limit parts).agent.closing = true := by
  induction parts generalizing w with
  | nil => exact h
  | cons part parts ih => exact ih (closing_stepPart h o limit part)

end World

/-! ### The deeds of a run of parts -/

/-- What happens to an agent at one time, where operations take their time. -/
inductive Deed (γ : Type) where
  /-- An act. -/
  | act (x : Act γ)
  /-- A teardown begins, and is yet to end. -/
  | destroyBegins (t : ThreadId)
  /-- A teardown that has begun ends. -/
  | destroyEnds (t : ThreadId)
  /-- A command that the agent has let through reaches the engine. -/
  | commandReaches (op : EngineOp)

/-- Deeds, the oldest first, each with the agent as it was just before. -/
abbrev Deeds (δ κ γ : Type) := List (Agent δ κ γ × Deed γ)

/-- A history as deeds. -/
def History.asDeeds (acts : History δ κ γ) : Deeds δ κ γ := acts.map fun x => (x.1, .act x.2)

lemma asDeeds_append (acts acts' : History δ κ γ) :
    History.asDeeds (acts ++ acts') = acts.asDeeds ++ acts'.asDeeds := List.map_append

namespace World

/-- The deeds of a part.  A teardown that finds another one under way begins and ends at once. -/
def partDeeds (o : Observers γ σ) (limit : Nat) (w : World δ κ γ σ) : OpPart γ → Deeds δ κ γ
  | .whole op => History.asDeeds (w.stepHistory o limit op)
  | .bodyBegins t => [(w.agent, .act (.register t))]
  | .bodyGoesOn t n =>
    History.asDeeds (w.processHistory o (raise o limit t) (raiseHistory o limit t) t n)
  | .bodyEnds _ => []
  | .destroyBegins t =>
    if w.agent.closing then [(w.agent, .act (.perform t .destroy))]
    else [(w.agent, .destroyBegins t)]
  | .destroyEnds t => [(w.agent, .destroyEnds t)]
  | .commandReaches op => [(w.agent, .commandReaches op)]
  | .accountEntered _ => []

/-- The deeds of parts one after the other. -/
def deeds (o : Observers γ σ) (limit : Nat) (w : World δ κ γ σ) : List (OpPart γ) → Deeds δ κ γ
  | [] => []
  | part :: parts => w.partDeeds o limit part ++ deeds o limit (w.stepPart o limit part) parts

end World

/-- The part changes the engine in no other way than is allowed, if it passes by the agent. -/
def OpPart.Within (allowed : Changes) : OpPart γ → Prop
  | .whole op => op.Within allowed
  | _ => True

namespace Agent

/-- Every deed keeps what is said of the deeds so far and of the agent then. -/
structure KeptByDeeds (allowed : Changes) (P : Deeds δ κ γ → Agent δ κ γ → Prop) : Prop where
  act : ∀ {before : Deeds δ κ γ} {a a' : Agent δ κ γ} {x : Act γ},
    P before a → Does allowed a x a' → P (before ++ [(a, .act x)]) a'
  dispatched : ∀ {before : Deeds δ κ γ} {a : Agent δ κ γ} (callee : String) (data : Bytes)
    (returns : Bool), P before a → P (before ++ [(a, .act (.dispatch callee data returns))]) a
  counted : ∀ {before : Deeds δ κ γ} {a : Agent δ κ γ} (f : Dispatch γ → Dispatch γ),
    P before a → P before (a.mapDispatch f)
  destroyBegins : ∀ {before : Deeds δ κ γ} {a : Agent δ κ γ} (t : ThreadId),
    P before a → a.closing = false → P (before ++ [(a, .destroyBegins t)]) a.beginDestroy
  destroyEnds : ∀ {before : Deeds δ κ γ} {a : Agent δ κ γ} (t : ThreadId),
    P before a → P (before ++ [(a, .destroyEnds t)]) (a.finishDestroy t).2
  commandReaches : ∀ {before : Deeds δ κ γ} {a : Agent δ κ γ} (op : EngineOp),
    P before a →
      P (before ++ [(a, .commandReaches op)]) { a with engine := (a.engine.apply op).2 }
  accountEntered : ∀ {before : Deeds δ κ γ} {a : Agent δ κ γ} (id : AccountId),
    P before a → P before { a with directory := a.directory.insert id }

namespace KeptByDeeds

variable {allowed : Changes} {P : Deeds δ κ γ → Agent δ κ γ → Prop} (hP : KeptByDeeds allowed P)

include hP

/-- So it is along a course of acts, whatever deeds come before it. -/
lemma kept (before : Deeds δ κ γ) :
    Kept allowed fun (acts : History δ κ γ) a => P (before ++ acts.asDeeds) a where
  act h hdoes := by
    rw [asDeeds_append, ← List.append_assoc]
    exact hP.act h hdoes
  dispatched callee data returns h := by
    rw [asDeeds_append, ← List.append_assoc]
    exact hP.dispatched callee data returns h
  counted f h := hP.counted f h

omit hP in
lemma along_asDeeds {before : Deeds δ κ γ} {acts acts' : History δ κ γ}
    (h : Along (fun (acts : History δ κ γ) a => P (before ++ acts.asDeeds) a) acts acts') :
    Along P (before ++ acts.asDeeds) acts'.asDeeds := by
  induction acts' generalizing acts with
  | nil => trivial
  | cons x acts' ih =>
    have hrest := ih h.2
    rw [asDeeds_append, ← List.append_assoc] at hrest
    exact ⟨h.1, hrest⟩

lemma along_course {a a' : Agent δ κ γ} {acts : History δ κ γ} (h : Course allowed a acts a')
    {before : Deeds δ κ γ} (ha : P before a) :
    Along P before acts.asDeeds ∧ P (before ++ acts.asDeeds) a' := by
  have hstart : P (before ++ History.asDeeds []) a := by
    rwa [History.asDeeds, List.map_nil, List.append_nil]
  obtain ⟨halong, hend⟩ := h.along (hP.kept before) hstart
  exact ⟨by simpa [History.asDeeds] using along_asDeeds halong, hend⟩

end KeptByDeeds

end Agent

namespace World

open Agent (Along KeptByDeeds)

variable {allowed : Changes} {P : Deeds δ κ γ → Agent δ κ γ → Prop}

lemma along_partDeeds (hP : KeptByDeeds allowed P) (hanswering : Changes.Answering allowed)
    (o : Observers γ σ) (limit : Nat) (w : World δ κ γ σ) {part : OpPart γ}
    (hpart : part.Within allowed) {before : Deeds δ κ γ} (h : P before w.agent) :
    Along P before (w.partDeeds o limit part)
      ∧ P (before ++ w.partDeeds o limit part) (w.stepPart o limit part).agent := by
  cases part with
  | whole op => exact hP.along_course (course_step hanswering o limit w hpart) h
  | bodyBegins t => exact ⟨⟨h, trivial⟩, hP.act h (.registered t w.agent)⟩
  | bodyGoesOn t n => exact hP.along_course (course_process hanswering o limit t n w) h
  | bodyEnds t => exact ⟨trivial, by simpa [partDeeds, stepPart, leave] using h⟩
  | destroyBegins t =>
    cases hclosing : w.agent.closing with
    | true =>
      have hact := hP.act h (.performed t .destroy w.agent)
      simp only [Agent.perform, Agent.destroy_of_closing hclosing] at hact
      simp only [partDeeds, stepPart, hclosing, if_true, Agent.beginDestroy_of_closing hclosing]
      exact ⟨⟨h, trivial⟩, hact⟩
    | false =>
      simp only [partDeeds, stepPart, hclosing, Bool.false_eq_true, if_false]
      exact ⟨⟨h, trivial⟩, hP.destroyBegins t h hclosing⟩
  | destroyEnds t => exact ⟨⟨h, trivial⟩, hP.destroyEnds t h⟩
  | commandReaches op => exact ⟨⟨h, trivial⟩, hP.commandReaches op h⟩
  | accountEntered id =>
    exact ⟨trivial, by simpa [partDeeds, stepPart] using hP.accountEntered id h⟩

/-- What every deed keeps is so at every deed of a run of parts and at its end. -/
lemma along_deeds (hP : KeptByDeeds allowed P) (hanswering : Changes.Answering allowed)
    (o : Observers γ σ) (limit : Nat) (w : World δ κ γ σ) {parts : List (OpPart γ)}
    (hparts : ∀ part ∈ parts, part.Within allowed) {before : Deeds δ κ γ}
    (h : P before w.agent) :
    Along P before (w.deeds o limit parts)
      ∧ P (before ++ w.deeds o limit parts) (w.runParts o limit parts).agent := by
  induction parts generalizing w before with
  | nil => exact ⟨trivial, by simpa [deeds, runParts] using h⟩
  | cons part parts ih =>
    obtain ⟨halong, hend⟩ := along_partDeeds hP hanswering o limit w (hparts part (by simp)) h
    obtain ⟨halong', hend'⟩ := ih (w.stepPart o limit part)
      (fun part' hpart' => hparts part' (by simp [hpart'])) hend
    refine ⟨Agent.along_append halong halong', ?_⟩
    rwa [List.append_assoc] at hend'

end World
end SipStills
