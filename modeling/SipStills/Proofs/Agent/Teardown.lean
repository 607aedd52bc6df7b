/-
# A teardown is final

Once a teardown has returned, no operation that begins then reaches the engine, the observers, the
directory or the sessions through the agent, whatever is asked of the agent and whatever it is
notified of.  That is due to one mark, which every teardown sets before it returns and which nothing
takes back: the teardown has begun.  So it is the same after a teardown that has found another one
under way and returned at once.

Every request is then declined in the way that `Request.Declined` says (`declined_perform`), and
every operation leaves the agent at rest (`Rests`, `World.rests_step`).  What began before may still
go on in between.  An account or a session may then be left, or be entered by such an operation; but
the teardown that tears the agent down leaves none behind (`TornDown.empty`), and no operation that
begins afterwards brings any in.
-/
import SipStills.Pipeline.Synthetic
import SipStills.Proofs.Agent.Parts

namespace SipStills

variable {δ κ γ σ : Type}

/-- The answer that a request gets once a teardown has begun.  The books may still be read, and a
session may still be ended. -/
def Request.Declined : (r : Request γ) → r.Answer → Prop
  | .create, x | .init _, x | .nullSound, x | .start, x | .setDefault _, x => x = .error .closing
  | .createTransport _ _, x => x = .error .closing
  | .createAccount settings _, x =>
    x = .error
      (if maxCredentials < settings.credentials.length then .tooManyCredentials maxCredentials
        else .closing)
  | .info _, x => x = .error .closing
  | .call _ _ _, x => x = .error .closing
  | .shutdown _, x | .destroy, x => x = .ok ()
  | .isValid _, x | .isDefault _, x => x = false
  | .listCodecs _ _, x => x = []
  | .account _, _ | .accounts, _ | .defaultAccount, _ | .registration _, _ | .regState _, _ => True
  | .endSession _, _ | .engineState, _ | .setConsumer _, _ => True

/-- The answer to whoever looks for an account or a session where there are none. -/
def Request.FindsNothing : (r : Request γ) → r.Answer → Prop
  | .account _, x | .defaultAccount, x => x = none
  | .registration _, x => x = none
  | .regState _, x => x = .unregistered
  | .accounts, x => x = []
  | .endSession _, x => x = false
  | _, _ => True

namespace Agent

/-- There are no accounts and no sessions. -/
structure Empty (a : Agent δ κ γ) : Prop where
  directory : a.directory = {}
  sessions : a.pipeline.sessions = {}

/-- The second agent is the first one after an operation that came to nothing: its engine has
received no command, no still was dispatched, its accounts are the same, and it has no sessions but
those that it had. -/
structure Rests (a a' : Agent δ κ γ) : Prop where
  closing : a'.closing = a.closing
  log : a'.engine.log = a.engine.log
  delivered : a'.pipeline.dispatch.delivered = a.pipeline.dispatch.delivered
  discarded : a'.pipeline.dispatch.discarded = a.pipeline.dispatch.discarded
  directory : a'.directory = a.directory
  sessions : a'.pipeline.sessions.entries.Sublist a.pipeline.sessions.entries

namespace Rests

variable {a a' a'' : Agent δ κ γ}

lemma refl (a : Agent δ κ γ) : Rests a a := ⟨rfl, rfl, rfl, rfl, rfl, .refl _⟩

lemma trans (h : Rests a a') (h' : Rests a' a'') : Rests a a'' where
  closing := h'.closing.trans h.closing
  log := h'.log.trans h.log
  delivered := h'.delivered.trans h.delivered
  discarded := h'.discarded.trans h.discarded
  directory := h'.directory.trans h.directory
  sessions := h'.sessions.trans h.sessions

lemma empty (h : Rests a a') (hempty : a.Empty) : a'.Empty where
  directory := h.directory.trans hempty.directory
  sessions := by
    have hsessions := h.sessions
    rw [hempty.sessions] at hsessions
    exact congrArg SessionTable.mk (List.sublist_nil.1 hsessions)

end Rests

lemma rests_ensureThread (t : ThreadId) (a : Agent δ κ γ) : a.Rests (a.ensureThread t) :=
  ⟨rfl, log_ensureThread t a, rfl, rfl, rfl, .refl _⟩

/-- What the engine does on its own side is not done to the agent. -/
lemma rests_engine {a : Agent δ κ γ} {engine : Engine} (h : engine.log = a.engine.log) :
    a.Rests { a with engine } := ⟨rfl, h, rfl, rfl, rfl, .refl _⟩

lemma rests_setConsumer (consumer : γ) (a : Agent δ κ γ) : a.Rests (a.setConsumer consumer).2 := by
  unfold setConsumer
  split
  · exact .refl a
  · rename_i dispatch hset
    have hcounts : dispatch.delivered = a.pipeline.dispatch.delivered
        ∧ dispatch.discarded = a.pipeline.dispatch.discarded := by
      unfold Dispatch.set at hset
      split at hset
      · exact absurd hset (by simp)
      · split at hset
        · exact absurd hset (by simp)
        · obtain rfl := Except.ok.inj hset
          exact ⟨rfl, rfl⟩
    exact ⟨rfl, rfl, hcounts.1, hcounts.2, rfl, .refl _⟩

lemma rests_endSession (callee : String) (a : Agent δ κ γ) : a.Rests (a.endSession callee).2 :=
  ⟨rfl, rfl, rfl, rfl, rfl, List.filter_sublist⟩

/-! ### Requests once a teardown has begun -/

section

variable {a : Agent δ κ γ} (h : a.closing = true)

include h

lemma serves_of_closing : a.serves = false := by
  simp [serves, h]

lemma command_of_closing {α : Type} (operation : String) (t : ThreadId)
    (run : Engine → Except EngineStatus α × Engine) :
    a.command operation t run = (.error .closing, a) := by
  simp [command, h]

lemma accountCommand_of_closing {α : Type} (operation : String) (t : ThreadId)
    (id : AccountId) (run : Engine → Except EngineStatus α × Engine) :
    a.accountCommand operation t id run = (.error .closing, a) := by
  simp [accountCommand, serves_of_closing h]

/-- Listing the codecs only forgets the worker. -/
lemma rests_listCodecs (worker : ThreadId) (wanted : Option Nat) :
    (a.listCodecs worker wanted).1 = [] ∧ a.Rests (a.listCodecs worker wanted).2 := by
  have hquery : a.queryCodecs worker = ([], a) := by simp [queryCodecs, h]
  refine ⟨?_, ?_⟩
  · cases wanted <;> simp [listCodecs, hquery]
  · simp only [listCodecs, hquery]
    exact ⟨rfl, rfl, rfl, rfl, rfl, .refl _⟩

/-- A request is declined, and the agent stays at rest. -/
lemma declined_perform (t : ThreadId) (r : Request γ) :
    r.Declined (a.perform t r).1 ∧ a.Rests (a.perform t r).2 := by
  have hrefl : a.Rests a := .refl a
  -- commands look at the teardown first; what is left reads the books or ends a session
  cases r with
  | create | init settings | nullSound =>
    simp only [perform, create, init, nullSound, command_of_closing h]
    exact ⟨rfl, hrefl⟩
  | createTransport kind settings =>
    simp only [perform, createTransport, command_of_closing h]
    exact ⟨rfl, hrefl⟩
  | start =>
    simp only [perform, start, command_of_closing h]
    exact ⟨rfl, hrefl⟩
  | destroy =>
    simp only [perform, destroy_of_closing h]
    exact ⟨rfl, hrefl⟩
  | setConsumer consumer => exact ⟨trivial, rests_setConsumer consumer a⟩
  | createAccount settings makeDefault =>
    simp only [perform, createAccount, command_of_closing h, Request.Declined]
    split
    · exact ⟨rfl, hrefl⟩
    · exact ⟨rfl, hrefl⟩
  | account id | accounts | registration id | regState id => exact ⟨trivial, hrefl⟩
  | defaultAccount | engineState => exact ⟨trivial, rests_ensureThread t a⟩
  | listCodecs worker wanted => exact rests_listCodecs h worker wanted
  | endSession callee => exact ⟨trivial, rests_endSession callee a⟩
  | isValid id =>
    simp only [perform, isValid, serves_of_closing h]
    exact ⟨rfl, hrefl⟩
  | isDefault id =>
    simp only [perform, isDefault, serves_of_closing h]
    exact ⟨rfl, hrefl⟩
  | setDefault id =>
    simp only [perform, setDefault, accountCommand_of_closing h]
    exact ⟨rfl, hrefl⟩
  | info id =>
    simp only [perform, info, accountCommand_of_closing h]
    exact ⟨rfl, hrefl⟩
  | call id target settings =>
    simp only [perform, call, accountCommand_of_closing h]
    exact ⟨rfl, hrefl⟩
  | shutdown id =>
    simp only [perform, shutdown, serves_of_closing h]
    exact ⟨rfl, hrefl⟩

end

/-- Where there are no accounts and no sessions, none are found. -/
lemma Empty.findsNothing_perform {a : Agent δ κ γ} (h : a.Empty) (t : ThreadId) (r : Request γ) :
    r.FindsNothing (a.perform t r).1 := by
  cases r with
  | account id =>
    simp only [perform, Request.FindsNothing, account?, h.directory]
    rfl
  | accounts =>
    simp only [perform, Request.FindsNothing, h.directory]
    rfl
  | defaultAccount =>
    have hnone : (a.ensureThread t).account? = fun _ => none := by
      funext id
      rw [account?, ((rests_ensureThread t a).empty h).directory]
      rfl
    simp [perform, Request.FindsNothing, defaultAccount?, hnone]
  | registration id =>
    simp only [perform, Request.FindsNothing, registration?, h.directory]
    cases a.gone <;> rfl
  | regState id =>
    simp only [perform, Request.FindsNothing, regState, h.directory]
    cases a.gone <;> rfl
  | endSession callee =>
    simp only [perform, Request.FindsNothing, endSession, Pipeline.endSession, h.sessions]
    rfl
  | _ => trivial

/-! ### The teardown -/

/-- The teardown that tears the agent down has just returned.  Where it had to wait, others that
were asked for in the meantime have found it under way and done nothing. -/
inductive TornDown : Agent δ κ γ → Prop where
  /-- It did not have to wait. -/
  | destroyed (t : ThreadId) {a : Agent δ κ γ} (hopen : a.closing = false) :
      TornDown (a.destroy t).2
  /-- It had begun, and waited for bodies of notifications, whatever these did in the meantime. -/
  | finished (t : ThreadId) {a : Agent δ κ γ} (hclosing : a.closing = true) :
      TornDown (a.finishDestroy t).2

lemma TornDown.empty {a : Agent δ κ γ} (h : a.TornDown) : a.Empty := by
  cases h with
  | destroyed t hopen =>
    unfold destroy
    rw [hopen]
    exact ⟨rfl, rfl⟩
  | finished t hclosing => exact ⟨rfl, rfl⟩

/-- Where the teardown has begun, the accounts and the sessions are gone.  A body that was under way
when the teardown began on its thread goes on, but what it still does are requests. -/
lemma Step.empty {a a' : Agent δ κ γ} {events : List AccountEvent} (hstep : Step a events a')
    (h : a.closing = true → a.Empty) : a'.closing = true → a'.Empty := by
  intro hclosing
  cases hstep with
  | performed t r a =>
    cases hopen : a.closing with
    | true => exact (declined_perform hopen t r).2.empty (h hopen)
    | false =>
      by_cases hr : r = .destroy
      · subst hr
        exact (TornDown.destroyed t hopen).empty
      · -- no other request begins a teardown
        have hkept := (keepsBooks_perform t a hr).closing
        rw [hopen, hclosing] at hkept
        exact absurd hkept (by simp)
  | registered t a => exact (rests_ensureThread t a).empty (h hclosing)
  | reported hopen henter =>
    -- a report would put its account into the directory, but it is not looked at
    rw [closing_enter? henter, hopen] at hclosing
    exact absurd hclosing (by simp)
  | prepared e hopen =>
    rw [show a.closing = true from hclosing] at hopen
    exact absurd hopen (by simp)
  | dispatched dispatch a | engine engine a | dropped a =>
    have hempty := h hclosing
    exact ⟨hempty.directory, hempty.sessions⟩

lemma Trace.empty {a a' : Agent δ κ γ} {events : List AccountEvent} (htrace : Trace a events a')
    (h : a.closing = true → a.Empty) : a'.closing = true → a'.Empty := by
  induction htrace with
  | nil a => exact h
  | cons hstep _ ih => exact ih (hstep.empty h)

lemma Reached.empty {a : Agent δ κ γ} (h : a.Reached) : a.closing = true → a.Empty := by
  obtain ⟨a₀, events, hnew, htrace⟩ := h
  refine htrace.empty fun hclosing => ?_
  rw [hnew.closing] at hclosing
  exact absurd hclosing (by simp)

end Agent

/-! ### Operations after the teardown -/

/-- The operation issues no command that passes by the agent. -/
def AgentOp.PassesNone : AgentOp γ → Prop
  | .engine change => ∀ e, (change e).log = e.log
  | _ => True

/-- The part enters no account and no session for an operation that has begun before. -/
def OpPart.EntersNothing : OpPart γ → Prop
  | .bodyGoesOn _ _ | .accountEntered _ => False
  | _ => True

namespace World

/-- The second world is the first one after an operation that came to nothing: the agent is at rest,
and the observers have taken no notes. -/
structure Rests (w w' : World δ κ γ σ) : Prop where
  agent : w.agent.Rests w'.agent
  notes : w'.notes = w.notes

variable {w : World δ κ γ σ}

lemma rests_deliver (h : w.agent.closing = true) (o : Observers γ σ) (raise : Raise δ κ γ σ)
    (t : ThreadId) (n : Notification) : w.Rests (w.deliver o raise t n) := by
  rw [deliver_of_closing h]
  split
  · exact ⟨.refl w.agent, rfl⟩
  · exact ⟨Agent.rests_ensureThread t w.agent, rfl⟩

lemma deliver_unobserved (h : w.agent.closing = true) (o o' : Observers γ σ)
    (raise raise' : Raise δ κ γ σ) (t : ThreadId) (n : Notification) :
    w.deliver o raise t n = w.deliver o' raise' t n := by
  rw [deliver_of_closing h, deliver_of_closing h]

lemma rests_raise (h : w.agent.closing = true) (o : Observers γ σ) (limit : Nat) (t : ThreadId)
    (stimulus : Stimulus) : w.Rests (raise o limit t stimulus w).2 := by
  cases limit with
  | zero => exact ⟨.refl w.agent, rfl⟩
  | succ limit =>
    cases stimulus with
    | started id renew => exact rests_deliver h o _ t _
    | decode event => exact rests_deliver h o _ t _
    | answered id status expires =>
      cases hanswer : w.agent.engine.answer id status expires with
      | none =>
        simp only [raise, hanswer]
        exact ⟨.refl w.agent, rfl⟩
      | some x =>
        simp only [raise, hanswer]
        -- the engine takes note of the answer, which is not a command
        have hanswered := Agent.rests_engine (Engine.log_answer hanswer)
        have hdelivered := rests_deliver
          (w := { w with agent := { w.agent with engine := x.2 } }) h o
          (World.raise o limit t) t (.report id (.info x.1))
        exact ⟨hanswered.trans hdelivered.agent, hdelivered.notes⟩

lemma raise_unobserved (h : w.agent.closing = true) (o o' : Observers γ σ) (limit : Nat)
    (t : ThreadId) (stimulus : Stimulus) :
    raise o limit t stimulus w = raise o' limit t stimulus w := by
  cases limit with
  | zero => rfl
  | succ limit =>
    cases stimulus with
    | started id renew => exact congrArg (true, ·) (deliver_unobserved h o o' _ _ t _)
    | decode event => exact congrArg (true, ·) (deliver_unobserved h o o' _ _ t _)
    | answered id status expires =>
      cases hanswer : w.agent.engine.answer id status expires with
      | none => simp only [raise, hanswer]
      | some x =>
        simp only [raise, hanswer]
        exact congrArg (true, ·) (deliver_unobserved
          (w := { w with agent := { w.agent with engine := x.2 } }) h o o' _ _ t _)

lemma rests_step (h : w.agent.closing = true) (o : Observers γ σ) (limit : Nat) {op : AgentOp γ}
    (hop : op.PassesNone) : w.Rests (w.step o limit op) := by
  cases op with
  | ask t request => exact ⟨(Agent.declined_perform h t request).2, rfl⟩
  | notify t n => exact rests_deliver h o _ t n
  | raise t stimulus => exact rests_raise h o limit t stimulus
  | foreign t known call =>
    unfold step World.foreign
    dsimp only
    split
    · split
      · exact rests_deliver h o _ t _
      · exact ⟨.refl w.agent, rfl⟩
    · exact ⟨.refl w.agent, rfl⟩
  | engine change => exact ⟨Agent.rests_engine (hop w.agent.engine), rfl⟩
  | drop => exact ⟨⟨rfl, rfl, rfl, rfl, rfl, .refl _⟩, rfl⟩

lemma step_unobserved (h : w.agent.closing = true) (o o' : Observers γ σ) (limit : Nat)
    (op : AgentOp γ) : w.step o limit op = w.step o' limit op := by
  cases op with
  | notify t n => exact deliver_unobserved h o o' _ _ t n
  | raise t stimulus => exact congrArg Prod.snd (raise_unobserved h o o' limit t stimulus)
  | foreign t known call =>
    unfold step World.foreign
    dsimp only
    split
    · rw [notify, notify, deliver_unobserved h o o' _ (World.raise o' limit t)]
    · rfl
  | ask t request | engine change | drop => rfl

/-- A teardown that has begun tears the agent down when it ends, whatever has come in between. -/
lemma tornDown_destroyEnds (h : w.agent.closing = true) (o : Observers γ σ) (limit : Nat)
    (t : ThreadId) : (w.stepPart o limit (.destroyEnds t)).agent.TornDown := .finished t h

lemma empty_stepPart (h : w.agent.closing = true) (hempty : w.agent.Empty) (o : Observers γ σ)
    (limit : Nat) {part : OpPart γ} (hpasses : ∀ op : AgentOp γ, part = .whole op → op.PassesNone)
    (henters : part.EntersNothing) : (w.stepPart o limit part).agent.Empty := by
  cases part with
  | whole op => exact (rests_step h o limit (hpasses op rfl)).agent.empty hempty
  | bodyBegins t => exact (Agent.rests_ensureThread t w.agent).empty hempty
  | bodyEnds t | destroyBegins t | commandReaches op => exact ⟨hempty.directory, hempty.sessions⟩
  | destroyEnds t => exact (tornDown_destroyEnds h o limit t).empty
  | bodyGoesOn t n | accountEntered id => exact henters.elim

/-- Where no earlier operation still enters any, there come neither accounts nor sessions. -/
lemma empty_runParts (h : w.agent.closing = true) (hempty : w.agent.Empty) (o : Observers γ σ)
    (limit : Nat) {parts : List (OpPart γ)}
    (hparts : ∀ op : AgentOp γ, .whole op ∈ parts → op.PassesNone)
    (henter : ∀ part ∈ parts, part.EntersNothing) : (w.runParts o limit parts).agent.Empty := by
  induction parts generalizing w with
  | nil => exact hempty
  | cons part parts ih =>
    have hfirst : (w.stepPart o limit part).agent.Empty :=
      empty_stepPart h hempty o limit (fun op hop => hparts op (by simp [hop]))
        (henter part (by simp))
    exact ih (closing_stepPart h o limit part) hfirst (fun op hop => hparts op (by simp [hop]))
      fun part' hpart' => henter part' (by simp [hpart'])

/-- A teardown that waits for a body on another thread tears the agent down. -/
lemma tornDown_destroyDuring (o : Observers γ σ) (limit : Nat) (a b : ThreadId)
    (event : DecodeEvent) (hopen : w.agent.closing = false)
    (hwaits : (w.enter a).inFlight.letsThrough w.agent.number b = false) :
    (w.destroyDuring o limit a b event).2.2.agent.TornDown := by
  rw [destroyDuring_eq_runParts, duringParts, hopen, hwaits]
  -- the body goes on after the first half of the teardown, and may still enter a session
  have hbegun : ((w.enter a).stepPart o limit (.destroyBegins b)).agent.closing = true := rfl
  exact tornDown_destroyEnds
    (closing_runParts hbegun o limit [.bodyGoesOn a (.decode event), .bodyEnds a]) o limit b

/-- An encoder that makes the same two packets of every picture. -/
def twinEncoder : PictureEncoder SyntheticDevices where
  name := "twin"
  openFor _ d := (some fun _ d => (some [{ data := [1] }, { data := [2] }], d), d)

/-- An agent in the middle of its work: its engine runs, holds an account and refuses to be torn
down, and what it decodes goes to a consumer. -/
def atWork : World SyntheticDevices Bool Unit Nat where
  agent :=
    { engine :=
        { state := .running
          accounts := [⟨0, 300, { configured := true }⟩]
          nextAccount := 1
          failure? := fun r => if r = .command .destroy then some 70013 else none }
      pipeline :=
        { registry :=
            { decoders := [syntheticDecoder (.plain false) .h264 0]
              encoder := some twinEncoder }
          dispatch := { consumer := some () }
          devices := [{}] } }
  notes := 0

/-- Observers that count what they are told and what they are given. -/
def counting : Observers Unit Nat where
  started := some fun _ _ => .note (· + 1) .done
  answered := some fun _ _ => .note (· + 1) .done
  consume := fun _ _ _ => .note (· + 1) .done

/-- A report, and a packet that becomes two stills. -/
def someWork : List (AgentOp Unit) :=
  [.raise 1 (.started 0 false), .notify 1 (.decode ⟨"cam-1", .h264, 0, 1, 0, [5]⟩)]

/-- The same among attempts to begin anew. -/
def attempts : List (AgentOp Unit) :=
  [.ask 2 .create, .ask 2 (.createAccount {} true), .ask 1 .destroy] ++ someWork
    ++ [.ask 2 (.shutdown 0)]

/-- A packet of another session. -/
def otherPacket : DecodeEvent := ⟨"cam-2", .h264, 0, 1, 0, [6]⟩

/-- A consumer that asks for a teardown with each still, and notes the answer, which accounts there
are then, and whether there was a session. -/
def impatient : Observers Unit (List (Bool × List AccountId × Bool)) where
  consume := fun _ callee _ =>
    .ask .destroy fun x => .ask .accounts fun ids => .ask (.endSession callee) fun found =>
      .note ((x.isOk, ids, found) :: ·) .done

end World
end SipStills
