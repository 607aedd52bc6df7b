/-
# What happens to the books of an agent

The books of an agent are its directory, its pipeline, and whether its teardown has begun.  Most
operations do not touch them: they change the engine and the threads that are registered with it
(`SameBooks`).

This file says in single steps what can happen to an agent (`Agent.Step`), each step with the
entries that it makes in the history of the accounts (`AccountEvent`).  Bodies of notifications
consist of several steps, so that an agent is followed through them as well.

* `keepsBooks_perform`: what a request does to the books, teardowns apart.
* `Step.directory`: a step changes the directory by the entries that it makes and by nothing else.
* `Trace.closing`: a teardown that has begun is never taken back.
-/
import SipStills.Agent.World
import SipStills.Proofs.Engine.Moves

namespace SipStills

variable {δ κ γ α : Type}

/-! ### Engine and threads -/

namespace Agent

/-- Agents that differ in the engine and in the threads that are registered with it, and in nothing
else. -/
def SameBooks (a a' : Agent δ κ γ) : Prop := ∃ gate engine, a' = { a with gate, engine }

namespace SameBooks

variable {a a' a'' : Agent δ κ γ}

lemma refl (a : Agent δ κ γ) : SameBooks a a := ⟨a.gate, a.engine, rfl⟩

lemma trans (h : SameBooks a a') (h' : SameBooks a' a'') : SameBooks a a'' := by
  obtain ⟨gate, engine, rfl⟩ := h
  obtain ⟨gate', engine', rfl⟩ := h'
  exact ⟨gate', engine', rfl⟩

lemma directory (h : SameBooks a a') : a'.directory = a.directory := by
  obtain ⟨gate, engine, rfl⟩ := h
  rfl

lemma closing (h : SameBooks a a') : a'.closing = a.closing := by
  obtain ⟨gate, engine, rfl⟩ := h
  rfl

lemma gone (h : SameBooks a a') : a'.gone = a.gone := by
  obtain ⟨gate, engine, rfl⟩ := h
  rfl

end SameBooks

lemma sameBooks_ensureThread (t : ThreadId) (a : Agent δ κ γ) : SameBooks a (a.ensureThread t) :=
  ⟨_, _, rfl⟩

lemma sameBooks_issue (operation : String) (run : Engine → Except EngineStatus α × Engine)
    (a : Agent δ κ γ) : SameBooks a (a.issue operation run).2 := ⟨_, _, rfl⟩

lemma sameBooks_command (operation : String) (t : ThreadId)
    (run : Engine → Except EngineStatus α × Engine) (a : Agent δ κ γ) :
    SameBooks a (a.command operation t run).2 := by
  unfold command
  split
  · exact .refl a
  · exact (sameBooks_ensureThread t a).trans (sameBooks_issue operation run _)

lemma sameBooks_accountCommand (operation : String) (t : ThreadId) (id : AccountId)
    (run : Engine → Except EngineStatus α × Engine) (a : Agent δ κ γ) :
    SameBooks a (a.accountCommand operation t id run).2 := by
  unfold accountCommand
  split
  · dsimp only
    split
    · exact (sameBooks_ensureThread t a).trans (sameBooks_issue operation run _)
    · exact sameBooks_ensureThread t a
  · exact .refl a

lemma sameBooks_listCodecs (worker : ThreadId) (wanted : Option Nat) (a : Agent δ κ γ) :
    SameBooks a (a.listCodecs worker wanted).2 := by
  have hquery : SameBooks a (a.queryCodecs worker).2 := by
    unfold queryCodecs
    split
    · exact .refl a
    · exact (sameBooks_ensureThread worker a).trans (sameBooks_issue "enum codecs" _ _)
  exact hquery.trans ⟨_, _, rfl⟩

lemma sameBooks_isValid (t : ThreadId) (id : AccountId) (a : Agent δ κ γ) :
    SameBooks a (a.isValid t id).2 := by
  unfold isValid
  split
  · exact sameBooks_ensureThread t a
  · exact .refl a

lemma sameBooks_isDefault (t : ThreadId) (id : AccountId) (a : Agent δ κ γ) :
    SameBooks a (a.isDefault t id).2 := by
  unfold isDefault
  split
  · exact sameBooks_ensureThread t a
  · exact .refl a

/-- A thread that is registered is counted by the engine, and changes nothing else about it. -/
lemma engine_ensureThread (t : ThreadId) (a : Agent δ κ γ) :
    ∃ threads, (a.ensureThread t).engine = { a.engine with threads } := by
  unfold ensureThread ThreadGate.ensure
  dsimp only
  split
  · exact ⟨a.engine.threads, rfl⟩
  · split
    · exact ⟨a.engine.threads, rfl⟩
    · rename_i h
      exact ⟨_, Engine.eq_of_registerThread h⟩

@[simp] lemma directory_ensureThread (t : ThreadId) (a : Agent δ κ γ) :
    (a.ensureThread t).directory = a.directory := rfl

@[simp] lemma log_ensureThread (t : ThreadId) (a : Agent δ κ γ) :
    (a.ensureThread t).engine.log = a.engine.log := by
  obtain ⟨threads, h⟩ := a.engine_ensureThread t
  rw [h]

@[simp] lemma state_ensureThread (t : ThreadId) (a : Agent δ κ γ) :
    (a.ensureThread t).engine.state = a.engine.state := by
  obtain ⟨threads, h⟩ := a.engine_ensureThread t
  rw [h]

@[simp] lemma failure?_ensureThread (t : ThreadId) (a : Agent δ κ γ) :
    (a.ensureThread t).engine.failure? = a.engine.failure? := by
  obtain ⟨threads, h⟩ := a.engine_ensureThread t
  rw [h]

@[simp] lemma plays_ensureThread (t : ThreadId) (a : Agent δ κ γ) :
    (a.ensureThread t).engine.plays = a.engine.plays := by
  obtain ⟨threads, h⟩ := a.engine_ensureThread t
  rw [h]

@[simp] lemma accounts_ensureThread (t : ThreadId) (a : Agent δ κ γ) :
    (a.ensureThread t).engine.accounts = a.engine.accounts := by
  obtain ⟨threads, h⟩ := a.engine_ensureThread t
  rw [h]

@[simp] lemma defaultAccount_ensureThread (t : ThreadId) (a : Agent δ κ γ) :
    (a.ensureThread t).engine.defaultAccount = a.engine.defaultAccount := by
  obtain ⟨threads, h⟩ := a.engine_ensureThread t
  rw [h]

@[simp] lemma holds_ensureThread (t : ThreadId) (id : AccountId) (a : Agent δ κ γ) :
    (a.ensureThread t).engine.holds id = a.engine.holds id := by
  obtain ⟨threads, h⟩ := a.engine_ensureThread t
  rw [h]
  rfl

@[simp] lemma hasLost_ensureThread (t : ThreadId) (id : AccountId) (a : Agent δ κ γ) :
    (a.ensureThread t).hasLost id = a.hasLost id := by
  simp [hasLost]

end Agent

/-! ### Entries in the history of the accounts -/

/-- What happens to the record of an account. -/
inductive AccountEvent where
  /-- The account was created. -/
  | created (id : AccountId)
  /-- A report about it was accepted. -/
  | reported (id : AccountId) (report : RegReport)
  /-- It was shut down. -/
  | removed (id : AccountId)
  /-- All accounts were dropped in a teardown. -/
  | cleared
deriving DecidableEq

/-- The directory after an event. -/
def AccountEvent.applyTo (d : Directory) : AccountEvent → Directory
  | .created id => d.insert id
  | .reported id report => (d.insert id).modify id fun r => r.apply report
  | .removed id => d.remove id
  | .cleared => {}

/-- The entries that a request makes which was answered so. -/
def Request.events (a : Agent δ κ γ) : (r : Request γ) → r.Answer → List AccountEvent
  | .createAccount _ _, .ok id => [.created id]
  | .shutdown id, .ok () => if a.serves && a.directory.contains id then [.removed id] else []
  | .destroy, _ => if a.closing then [] else [.cleared]
  | _, _ => []

namespace Agent

/-- What a request has done to the books of an agent, if it was no teardown: the directory has
changed by the entries that the request makes. -/
structure KeepsBooks (a : Agent δ κ γ) (events : List AccountEvent) (a' : Agent δ κ γ) : Prop where
  directory : a'.directory = events.foldl AccountEvent.applyTo a.directory
  closing : a'.closing = a.closing
  gone : a'.gone = a.gone

lemma SameBooks.keepsBooks {a a' : Agent δ κ γ} (h : SameBooks a a') : KeepsBooks a [] a' :=
  ⟨h.directory, h.closing, h.gone⟩

lemma keepsBooks_start (t : ThreadId) (a : Agent δ κ γ) : KeepsBooks a [] (a.start t).2 := by
  have hbooks := sameBooks_command "start" t Engine.start a
  unfold start
  rcases hcommand : a.command "start" t Engine.start with ⟨_ | _, a'⟩
  · rw [hcommand] at hbooks
    exact hbooks.keepsBooks
  · rw [hcommand] at hbooks
    exact ⟨hbooks.directory, hbooks.closing, hbooks.gone⟩

lemma keepsBooks_setConsumer (consumer : γ) (a : Agent δ κ γ) :
    KeepsBooks a [] (a.setConsumer consumer).2 := by
  unfold setConsumer
  split <;> exact ⟨rfl, rfl, rfl⟩

lemma keepsBooks_createAccount (t : ThreadId) (settings : AccountSettings) (makeDefault : Bool)
    (a : Agent δ κ γ) :
    KeepsBooks a
      (Request.events a (.createAccount settings makeDefault)
        (a.createAccount t settings makeDefault).1)
      (a.createAccount t settings makeDefault).2 := by
  have hbooks := sameBooks_command "create account" t (Engine.addAccount settings makeDefault) a
  unfold createAccount
  split
  · exact ⟨rfl, rfl, rfl⟩
  · rcases hcommand : a.command "create account" t (Engine.addAccount settings makeDefault) with
      ⟨_ | id, a'⟩
    · rw [hcommand] at hbooks
      exact hbooks.keepsBooks
    · rw [hcommand] at hbooks
      exact ⟨congrArg (·.insert id) hbooks.directory, hbooks.closing, hbooks.gone⟩

/-- What a shutdown comes to: the answer, and the agent then. -/
inductive ShutdownOutcome (t : ThreadId) (id : AccountId) (a : Agent δ κ γ) :
    Except Fault Unit × Agent δ κ γ → Prop where
  /-- There is nothing to do. -/
  | skipped (h : (a.serves && a.directory.contains id) = false) :
      ShutdownOutcome t id a (.ok (), a)
  /-- The engine has lost the account already, so that only its record goes. -/
  | forgotten (hknown : (a.serves && a.directory.contains id) = true)
      (hlost : a.hasLost id = true) :
      ShutdownOutcome t id a (.ok (), (a.ensureThread t).forget id)
  /-- The engine deletes the account. -/
  | deleted (hknown : (a.serves && a.directory.contains id) = true)
      (hheld : a.hasLost id = false) :
      ShutdownOutcome t id a
        (.ok (),
          { a.ensureThread t with
            engine := ((a.ensureThread t).engine.note .accountDelete).without id
            directory := a.directory.remove id })
  /-- The engine is told to fail, and refuses. -/
  | refused (hknown : (a.serves && a.directory.contains id) = true)
      (hheld : a.hasLost id = false) {status : EngineStatus}
      (hfailing : a.engine.failure? (.command .accountDelete) = some status) :
      ShutdownOutcome t id a
        (.error (.engine "delete account" status),
          { a.ensureThread t with
            engine := (a.ensureThread t).engine.note .accountDelete })

lemma shutdown_outcome (t : ThreadId) (id : AccountId) (a : Agent δ κ γ) :
    ShutdownOutcome t id a (a.shutdown t id) := by
  unfold shutdown
  split
  · rename_i hskip
    refine .skipped ?_
    cases hserves : a.serves <;> simp_all
  · rename_i hgo
    have hknown : (a.serves && a.directory.contains id) = true := by
      cases hserves : a.serves <;> simp_all
    dsimp only
    split
    · rename_i hlost
      exact .forgotten hknown (by simpa using hlost)
    · rename_i hheld
      have hheld' : a.hasLost id = false := by simpa using hheld
      have hholds : (a.ensureThread t).engine.holds id = true := by
        simp only [hasLost, Bool.or_eq_false_iff, Bool.not_eq_false'] at hheld'
        simpa using hheld'.2
      cases hfailing : a.engine.failure? (.command .accountDelete) with
      | some status =>
        have hissue : Engine.deleteAccount id (a.ensureThread t).engine = (.error status, _) :=
          Engine.receive_of_failing (by simpa using hfailing) _
        simp only [issue, hissue]
        exact .refused hknown hheld' hfailing
      | none =>
        have hissue := Engine.deleteAccount_of_holds (by simpa using hfailing) hholds
        simp only [issue, hissue]
        exact .deleted hknown hheld'

/-- A shutdown drops the record of the account if there is one and the engine does not refuse. -/
lemma keepsBooks_shutdown (t : ThreadId) (id : AccountId) (a : Agent δ κ γ) :
    KeepsBooks a (Request.events a (.shutdown id) (a.shutdown t id).1) (a.shutdown t id).2 := by
  have houtcome := shutdown_outcome t id a
  generalize a.shutdown t id = r at houtcome ⊢
  cases houtcome with
  | skipped h => exact ⟨by simp [Request.events, h], rfl, rfl⟩
  | forgotten hknown hlost | deleted hknown hheld =>
    exact ⟨by simp [Request.events, hknown, AccountEvent.applyTo, forget], rfl, rfl⟩
  | refused hknown hheld hfailing => exact ⟨rfl, rfl, rfl⟩

/-- What a request does to the books, teardowns apart. -/
lemma keepsBooks_perform (t : ThreadId) (a : Agent δ κ γ) {r : Request γ} (hr : r ≠ .destroy) :
    KeepsBooks a (r.events a (a.perform t r).1) (a.perform t r).2 := by
  cases r with
  | destroy => exact absurd rfl hr
  | create => exact (sameBooks_command "create" t Engine.create a).keepsBooks
  | init settings => exact (sameBooks_command "init" t (Engine.init settings) a).keepsBooks
  | nullSound =>
    exact (sameBooks_command "set null sound device" t Engine.nullSound a).keepsBooks
  | createTransport kind settings =>
    exact (sameBooks_command "create transport" t
      (Engine.createTransport kind (settings.getD {})) a).keepsBooks
  | start => exact keepsBooks_start t a
  | setConsumer consumer => exact keepsBooks_setConsumer consumer a
  | createAccount settings makeDefault => exact keepsBooks_createAccount t settings makeDefault a
  | account id => exact (SameBooks.refl a).keepsBooks
  | accounts => exact (SameBooks.refl a).keepsBooks
  | defaultAccount => exact (sameBooks_ensureThread t a).keepsBooks
  | engineState => exact (sameBooks_ensureThread t a).keepsBooks
  | listCodecs worker wanted => exact (sameBooks_listCodecs worker wanted a).keepsBooks
  | endSession callee => exact ⟨rfl, rfl, rfl⟩
  | isValid id => exact (sameBooks_isValid t id a).keepsBooks
  | isDefault id => exact (sameBooks_isDefault t id a).keepsBooks
  | setDefault id =>
    exact (sameBooks_accountCommand "set default account" t id
      (Engine.setDefault id) a).keepsBooks
  | info id =>
    exact (sameBooks_accountCommand "account get info" t id (Engine.info id) a).keepsBooks
  | call id target settings =>
    exact (sameBooks_accountCommand "make play" t id
      (Engine.makePlay id target settings) a).keepsBooks
  | registration id => exact (SameBooks.refl a).keepsBooks
  | regState id => exact (SameBooks.refl a).keepsBooks
  | shutdown id => exact keepsBooks_shutdown t id a

/-- A report is entered into the record of its account, which is a blank one if there was none. -/
lemma directory_enter? {a a' : Agent δ κ γ} {id : AccountId} {report : RegReport}
    (h : a.enter? id report = some a') :
    a'.directory = (a.directory.insert id).modify id fun r => r.apply report := by
  unfold enter? at h
  obtain ⟨b, hadopt, rfl⟩ := Option.map_eq_some_iff.1 h
  have hdirectory : b.directory = a.directory.insert id := by
    unfold adopt? at hadopt
    split at hadopt
    · rename_i hcontains
      obtain rfl := Option.some.inj hadopt
      simp [Directory.insert, hcontains]
    · split at hadopt
      · obtain rfl := Option.some.inj hadopt
        rfl
      · exact absurd hadopt (by simp)
  simp only [hdirectory]

lemma closing_enter? {a a' : Agent δ κ γ} {id : AccountId} {report : RegReport}
    (h : a.enter? id report = some a') : a'.closing = a.closing := by
  unfold enter? at h
  obtain ⟨b, hadopt, rfl⟩ := Option.map_eq_some_iff.1 h
  unfold adopt? at hadopt
  split at hadopt
  · obtain rfl := Option.some.inj hadopt
    rfl
  · split at hadopt
    · obtain rfl := Option.some.inj hadopt
      rfl
    · exact absurd hadopt (by simp)

/-! ### Single steps -/

/-- What can happen to an agent, and the entries that it makes. -/
inductive Step : Agent δ κ γ → List AccountEvent → Agent δ κ γ → Prop where
  /-- A request is carried out. -/
  | performed (t : ThreadId) (r : Request γ) (a : Agent δ κ γ) :
      Step a (r.events a (a.perform t r).1) (a.perform t r).2
  /-- A thread is registered with the engine. -/
  | registered (t : ThreadId) (a : Agent δ κ γ) : Step a [] (a.ensureThread t)
  /-- A report is entered, which is not done after the teardown has begun. -/
  | reported {a a' : Agent δ κ γ} {id : AccountId} {report : RegReport}
      (hopen : a.closing = false) (h : a.enter? id report = some a') :
      Step a [.reported id report] a'
  /-- Stills are prepared of an event, which is not done after the teardown has begun. -/
  | prepared (e : DecodeEvent) {a : Agent δ κ γ} (hopen : a.closing = false) :
      Step a [] { a with pipeline := (a.pipeline.prepare e).2 }
  /-- A still reaches the consumer, or is dropped. -/
  | dispatched (dispatch : Dispatch γ) (a : Agent δ κ γ) :
      Step a [] { a with pipeline := { a.pipeline with dispatch } }
  /-- Something happens on the engine's own side. -/
  | engine (engine : Engine) (a : Agent δ κ γ) : Step a [] { a with engine }
  /-- The owner lets go of the agent. -/
  | dropped (a : Agent δ κ γ) : Step a [] a.drop

/-- A step changes the directory by the entries that it makes and by nothing else. -/
lemma Step.directory {a a' : Agent δ κ γ} {events : List AccountEvent} (h : Step a events a') :
    a'.directory = events.foldl AccountEvent.applyTo a.directory := by
  cases h with
  | performed t r a =>
    by_cases hr : r = .destroy
    · subst hr
      cases hclosing : a.closing with
      | true =>
        -- a second teardown does nothing and makes no entry
        simp [perform, destroy, Request.events, hclosing]
      | false =>
        simp [perform, destroy, Request.events, hclosing, AccountEvent.applyTo, finishDestroy]
    · exact (keepsBooks_perform t a hr).directory
  | reported hopen h => exact directory_enter? h
  | registered t a | prepared e hopen | dispatched dispatch a | engine engine a | dropped a => rfl

/-- A teardown that has begun is not taken back. -/
lemma Step.closing {a a' : Agent δ κ γ} {events : List AccountEvent} (h : Step a events a')
    (hclosing : a.closing = true) : a'.closing = true := by
  cases h with
  | performed t r a =>
    by_cases hr : r = .destroy
    · subst hr
      simp [perform, destroy, hclosing]
    · exact (keepsBooks_perform t a hr).closing.trans hclosing
  | reported hopen h => exact (closing_enter? h).trans hclosing
  | registered t a | prepared e hopen | dispatched dispatch a | engine engine a | dropped a =>
    exact hclosing

/-- Steps one after the other. -/
inductive Trace : Agent δ κ γ → List AccountEvent → Agent δ κ γ → Prop where
  | nil (a : Agent δ κ γ) : Trace a [] a
  | cons {a a' a'' : Agent δ κ γ} {events events' : List AccountEvent}
      (hstep : Step a events a') (htrace : Trace a' events' a'') :
      Trace a (events ++ events') a''

namespace Trace

variable {a a' a'' : Agent δ κ γ} {events events' : List AccountEvent}

lemma single (h : Step a events a') : Trace a events a' := by
  have htrace := Trace.cons h (.nil a')
  rwa [List.append_nil] at htrace

lemma append (h : Trace a events a') (h' : Trace a' events' a'') :
    Trace a (events ++ events') a'' := by
  induction h with
  | nil a => exact h'
  | cons hstep _ ih =>
    rw [List.append_assoc]
    exact .cons hstep (ih h')

lemma directory (h : Trace a events a') :
    a'.directory = events.foldl AccountEvent.applyTo a.directory := by
  induction h with
  | nil a => rfl
  | cons hstep _ ih => rw [ih, hstep.directory, List.foldl_append]

lemma closing (h : Trace a events a') (hclosing : a.closing = true) : a'.closing = true := by
  induction h with
  | nil a => exact hclosing
  | cons hstep _ ih => exact ih (hstep.closing hclosing)

end Trace

/-- An agent as it is built: without accounts or sessions, and not in its teardown.  Its engine and
its pipeline may be any. -/
structure IsNew (a : Agent δ κ γ) : Prop where
  closing : a.closing = false
  directory : a.directory = {}
  sessions : a.pipeline.sessions = {}

/-- The agent is in a state that a new agent can reach. -/
def Reached (a : Agent δ κ γ) : Prop :=
  ∃ (a₀ : Agent δ κ γ) (events : List AccountEvent), a₀.IsNew ∧ Trace a₀ events a

end Agent
end SipStills
