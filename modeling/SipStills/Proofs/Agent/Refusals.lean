/-
# Refused requests

A request that is refused leaves the agent as it was (`refused_leaves_unchanged`): what the engine
holds and the numbers that it will give next, the directory with its records, the sessions, and the
consumer.  At most the thread was registered and the engine has recorded the command, and the
latter only if it is the engine that refused.

Teardowns are left out, since one that the engine refuses still ends all sessions and forgets all
accounts.

A command works on the engine itself and may refuse at several places.  `Engine.SparesOnRefusal`
says of a part of a command that it has not touched the engine where it refuses, and
`Engine.NotesRefusals` of a command that the engine has then done nothing but record it.
-/
import SipStills.Proofs.Agent.Books

namespace SipStills

variable {δ κ γ α : Type}

/-- Why the answer is a refusal, if it is one. -/
def refusal? : Except Fault α → Option Fault
  | .ok _ => none
  | .error fault => some fault

lemma eq_of_refusal? {β : Type} {x : Except Fault α × β} {fault : Fault}
    (h : refusal? x.1 = some fault) : x = (.error fault, x.2) := by
  obtain ⟨_ | _, b⟩ := x
  · obtain rfl := Option.some.inj h
    rfl
  · exact absurd h (by simp [refusal?])

lemma eq_and_eq_of_refused {β : Type} {fault fault' : Fault} {b b' : β}
    (h : ((.error fault, b) : Except Fault α × β) = (.error fault', b')) :
    fault = fault' ∧ b = b' := by
  obtain ⟨hfault, hb⟩ := Prod.mk.inj h
  exact ⟨Except.error.inj hfault, hb⟩

namespace Request

/-- Why a request was refused that was answered so, if it was refused. -/
def refusal? : (r : Request γ) → r.Answer → Option Fault
  | .create, x | .init _, x | .nullSound, x | .start, x | .destroy, x => SipStills.refusal? x
  | .setConsumer _, x | .setDefault _, x | .shutdown _, x => SipStills.refusal? x
  | .createTransport _ _, x => SipStills.refusal? x
  | .createAccount _ _, x => SipStills.refusal? x
  | .info _, x => SipStills.refusal? x
  | .call _ _ _, x => SipStills.refusal? x
  | .account _, _ | .accounts, _ | .defaultAccount, _ | .engineState, _ | .listCodecs _ _, _
  | .endSession _, _ | .isValid _, _ | .isDefault _, _ | .registration _, _ | .regState _, _ => none

/-- The command that a request hands to the engine. -/
def command? : Request γ → Option EngineCommand
  | .create => some .create
  | .init _ => some .init
  | .nullSound => some .nullSound
  | .createTransport _ _ => some .transportCreate
  | .start => some .start
  | .destroy => some .destroy
  | .createAccount _ _ => some .accountAdd
  | .listCodecs _ _ => some .enumerateCodecs
  | .setDefault _ => some .accountSetDefault
  | .info _ => some .accountInfo
  | .call _ _ _ => some .makePlay
  | .shutdown _ => some .accountDelete
  | .setConsumer _ | .account _ | .accounts | .defaultAccount | .engineState | .endSession _
  | .isValid _ | .isDefault _ | .registration _ | .regState _ => none

end Request

/-- What the engine has recorded of a command that was refused: the command, if the engine is the
one that refused it. -/
def Fault.noted (command? : Option EngineCommand) : Fault → Option EngineCommand
  | .engine _ _ => command?
  | .tooManyCredentials _ | .invalidAccount _ | .closing | .consumerAlreadySet | .pipelineActive =>
    none

@[simp] lemma Fault.noted_none (fault : Fault) : fault.noted none = none := by
  cases fault <;> rfl

/-! ### What the engine does when it refuses -/

namespace Engine

/-- What refuses leaves the engine as it was. -/
def SparesOnRefusal (run : Engine → Except EngineStatus α × Engine) : Prop :=
  ∀ e status, (run e).1 = .error status → (run e).2 = e

/-- When the engine refuses the command it has done nothing but record it. -/
def NotesRefusals (c : EngineCommand) (run : Engine → Except EngineStatus α × Engine) : Prop :=
  ∀ e status, (run e).1 = .error status → (run e).2 = e.note c

lemma sparesOnRefusal_ok (answer : Engine → α) (change : Engine → Engine) :
    SparesOnRefusal fun e => (.ok (answer e), change e) :=
  fun _ _ h => absurd h (by simp)

lemma sparesOnRefusal_atStage {allowed : EngineState → Bool}
    {run : Engine → Except EngineStatus α × Engine} (h : SparesOnRefusal run) :
    SparesOnRefusal (atStage allowed run) := by
  intro e status
  unfold atStage
  split
  · exact h e status
  · exact fun _ => rfl

lemma sparesOnRefusal_holding {id : AccountId} {run : Engine → Except EngineStatus α × Engine}
    (h : SparesOnRefusal run) : SparesOnRefusal (holding id run) := by
  intro e status
  unfold holding
  split
  · exact h e status
  · exact fun _ => rfl

lemma notesRefusals_receive {c : EngineCommand} {run : Engine → Except EngineStatus α × Engine}
    (h : SparesOnRefusal run) : NotesRefusals c (receive c run) := by
  intro e status
  rcases receive_cases c run e with ⟨_, hrefused⟩ | hdone
  · rw [hrefused]
    exact fun _ => rfl
  · rw [hdone]
    exact h (e.note c) status

lemma notesRefusals_create : NotesRefusals .create create :=
  notesRefusals_receive (sparesOnRefusal_atStage (sparesOnRefusal_ok _ _))

lemma notesRefusals_init (settings : EndpointSettings) : NotesRefusals .init (init settings) :=
  notesRefusals_receive (sparesOnRefusal_atStage (sparesOnRefusal_ok _ _))

lemma notesRefusals_start : NotesRefusals .start start :=
  notesRefusals_receive (sparesOnRefusal_atStage (sparesOnRefusal_ok _ _))

lemma notesRefusals_nullSound : NotesRefusals .nullSound nullSound :=
  notesRefusals_receive (sparesOnRefusal_atStage (sparesOnRefusal_ok _ _))

lemma notesRefusals_createTransport (kind : TransportKind) (settings : TransportSettings) :
    NotesRefusals .transportCreate (createTransport kind settings) :=
  notesRefusals_receive (sparesOnRefusal_atStage (sparesOnRefusal_ok _ _))

/-- The settings of an account are looked at before anything is done. -/
lemma notesRefusals_addAccount (settings : AccountSettings) (makeDefault : Bool) :
    NotesRefusals .accountAdd (addAccount settings makeDefault) := by
  refine notesRefusals_receive (sparesOnRefusal_atStage fun e status => ?_)
  dsimp only
  split
  · exact fun _ => rfl
  · exact fun h => absurd h (by simp)

lemma notesRefusals_setDefault (id : AccountId) :
    NotesRefusals .accountSetDefault (setDefault id) :=
  notesRefusals_receive (sparesOnRefusal_holding (sparesOnRefusal_ok _ _))

/-- A deletion is refused only after the account was taken out, but then there was none. -/
lemma notesRefusals_deleteAccount (id : AccountId) :
    NotesRefusals .accountDelete (deleteAccount id) := by
  refine notesRefusals_receive fun e status => ?_
  dsimp only
  split
  · exact fun h => absurd h (by simp)
  · rename_i habsent
    intro _
    rw [filter_of_not_holds habsent]

lemma notesRefusals_info (id : AccountId) : NotesRefusals .accountInfo (info id) := by
  refine notesRefusals_receive fun e status => ?_
  split
  · exact fun h => absurd h (by simp)
  · exact fun _ => rfl

/-- A call is numbered and recorded only after all checks. -/
lemma notesRefusals_makePlay (id : AccountId) (target : String) (settings : CallSettings) :
    NotesRefusals .makePlay (makePlay id target settings) := by
  refine notesRefusals_receive
    (sparesOnRefusal_atStage (sparesOnRefusal_holding fun e status => ?_))
  split
  · exact fun h => absurd h (by simp)
  · exact fun _ => rfl

end Engine

namespace Agent

/-- The second agent is the first one, of which only a thread was registered and a command was
recorded. -/
structure Unchanged (t : ThreadId) (noted : Option EngineCommand) (a a' : Agent δ κ γ) : Prop where
  rest : a' =
    { a with
      gate := a'.gate
      engine :=
        { a.engine with threads := a'.engine.threads, log := a.engine.log ++ noted.toList } }
  threads :
    a'.gate = a.gate ∧ a'.engine.threads = a.engine.threads
      ∨ a'.gate.registered = t :: a.gate.registered
        ∧ a'.engine.threads = a.engine.threads + 1

lemma unchanged_refl (t : ThreadId) (a : Agent δ κ γ) : Unchanged t none a a :=
  ⟨by simp, .inl ⟨rfl, rfl⟩⟩

lemma unchanged_ensureThread (t : ThreadId) (a : Agent δ κ γ) :
    Unchanged t none a (a.ensureThread t) := by
  unfold ensureThread ThreadGate.ensure
  dsimp only
  split
  · exact unchanged_refl t a
  · split
    · exact unchanged_refl t a
    · rename_i hregistered
      rw [Engine.eq_of_registerThread hregistered]
      exact ⟨by simp, .inr ⟨rfl, rfl⟩⟩

variable {t : ThreadId} {a a' : Agent δ κ γ} {c : EngineCommand} {fault : Fault}
  {run : Engine → Except EngineStatus α × Engine} {operation : String}

/-- A command that the engine refuses is recorded. -/
lemma unchanged_issue (hrun : Engine.NotesRefusals c run) {b : Agent δ κ γ}
    (hb : Unchanged t none a b) (h : b.issue operation run = (.error fault, a')) :
    Unchanged t (fault.noted (some c)) a a' := by
  unfold issue at h
  obtain ⟨hanswer, rfl⟩ := Prod.mk.inj h
  cases hrefused : (run b.engine).1 with
  | ok x =>
    rw [hrefused] at hanswer
    have hok : (.ok x : Except Fault α) = .error fault := hanswer
    exact absurd hok (by simp)
  | error status =>
    rw [hrefused] at hanswer
    obtain rfl : Fault.engine operation status = fault := Except.error.inj hanswer
    rw [hrun b.engine status hrefused]
    refine ⟨?_, hb.threads⟩
    rw [hb.rest]
    simp [Fault.noted, Engine.note]

lemma unchanged_command (hrun : Engine.NotesRefusals c run)
    (h : a.command operation t run = (.error fault, a')) :
    Unchanged t (fault.noted (some c)) a a' := by
  unfold command at h
  split at h
  · -- the teardown has begun: not even the thread is registered
    obtain ⟨rfl, rfl⟩ := eq_and_eq_of_refused h
    exact unchanged_refl t a
  · exact unchanged_issue hrun (unchanged_ensureThread t a) h

lemma unchanged_accountCommand (hrun : Engine.NotesRefusals c run) {id : AccountId}
    (h : a.accountCommand operation t id run = (.error fault, a')) :
    Unchanged t (fault.noted (some c)) a a' := by
  unfold accountCommand at h
  dsimp only at h
  split at h
  · split at h
    · exact unchanged_issue hrun (unchanged_ensureThread t a) h
    · -- asking whether the engine holds the account takes a registered thread
      obtain ⟨rfl, rfl⟩ := eq_and_eq_of_refused h
      exact unchanged_ensureThread t a
  · obtain ⟨rfl, rfl⟩ := eq_and_eq_of_refused h
    exact unchanged_refl t a

/-! ### Requests that are more than a command -/

/-- The consumer is fixed only by a start that succeeds. -/
lemma unchanged_start (h : a.start t = (.error fault, a')) :
    Unchanged t (fault.noted (some .start)) a a' := by
  unfold start at h
  split at h
  · rename_i hcommand
    obtain ⟨rfl, rfl⟩ := eq_and_eq_of_refused h
    exact unchanged_command Engine.notesRefusals_start hcommand
  · exact absurd h (by simp)

lemma unchanged_setConsumer {consumer : γ} (h : a.setConsumer consumer = (.error fault, a')) :
    Unchanged t (fault.noted none) a a' := by
  unfold setConsumer at h
  split at h
  · obtain ⟨-, rfl⟩ := Prod.mk.inj h
    rw [Fault.noted_none]
    exact unchanged_refl t a
  · exact absurd h (by simp)

/-- The directory learns of an account only when the engine has given it a number. -/
lemma unchanged_createAccount {settings : AccountSettings} {makeDefault : Bool}
    (h : a.createAccount t settings makeDefault = (.error fault, a')) :
    Unchanged t (fault.noted (some .accountAdd)) a a' := by
  unfold createAccount at h
  split at h
  · obtain ⟨rfl, rfl⟩ := eq_and_eq_of_refused h
    exact unchanged_refl t a
  · split at h
    · rename_i hcommand
      obtain ⟨rfl, rfl⟩ := eq_and_eq_of_refused h
      exact unchanged_command (Engine.notesRefusals_addAccount settings makeDefault) hcommand
    · exact absurd h (by simp)

lemma unchanged_call {id : AccountId} {target : String} {settings : CallSettings}
    (h : a.call t id target settings = (.error fault, a')) :
    Unchanged t (fault.noted (some .makePlay)) a a' := by
  unfold call at h
  dsimp only at h
  rcases hcommand : a.accountCommand "make play" t id (Engine.makePlay id target settings) with
    ⟨refused | n, b⟩
  · rw [hcommand] at h
    obtain ⟨rfl, rfl⟩ := eq_and_eq_of_refused h
    exact unchanged_accountCommand (Engine.notesRefusals_makePlay id target settings) hcommand
  · rw [hcommand] at h
    exact absurd h (by simp [Except.map])

/-- A shutdown that is refused has got as far as the engine, which still holds the account. -/
lemma unchanged_shutdown {id : AccountId} (h : a.shutdown t id = (.error fault, a')) :
    Unchanged t (fault.noted (some .accountDelete)) a a' := by
  unfold shutdown at h
  dsimp only at h
  split at h
  · exact absurd h (by simp)
  · split at h
    · exact absurd h (by simp)
    · split at h
      · rename_i hissue
        obtain ⟨rfl, rfl⟩ := eq_and_eq_of_refused h
        exact unchanged_issue (Engine.notesRefusals_deleteAccount id)
          (unchanged_ensureThread t a) hissue
      · exact absurd h (by simp)

/-- A request that is refused changes nothing: a thread may have been registered, and the engine
has recorded the command if the engine is the one that refused it.  Teardowns are left out. -/
theorem refused_leaves_unchanged (a : Agent δ κ γ) (t : ThreadId) {r : Request γ}
    (hr : r ≠ .destroy) {fault : Fault} (h : r.refusal? (a.perform t r).1 = some fault) :
    Unchanged t (fault.noted r.command?) a (a.perform t r).2 := by
  cases r with
  | destroy => exact absurd rfl hr
  | create =>
    exact unchanged_command Engine.notesRefusals_create (eq_of_refusal? h)
  | init settings =>
    exact unchanged_command (Engine.notesRefusals_init settings) (eq_of_refusal? h)
  | nullSound =>
    exact unchanged_command Engine.notesRefusals_nullSound (eq_of_refusal? h)
  | createTransport kind settings =>
    exact unchanged_command (Engine.notesRefusals_createTransport kind (settings.getD {}))
      (eq_of_refusal? h)
  | start => exact unchanged_start (eq_of_refusal? h)
  | setConsumer consumer => exact unchanged_setConsumer (eq_of_refusal? h)
  | createAccount settings makeDefault => exact unchanged_createAccount (eq_of_refusal? h)
  | setDefault id =>
    exact unchanged_accountCommand (Engine.notesRefusals_setDefault id)
      (eq_of_refusal? h)
  | info id =>
    exact unchanged_accountCommand (Engine.notesRefusals_info id)
      (eq_of_refusal? h)
  | call id target settings => exact unchanged_call (eq_of_refusal? h)
  | shutdown id => exact unchanged_shutdown (eq_of_refusal? h)
  | account id | accounts | defaultAccount | engineState | listCodecs worker wanted
  | endSession callee | isValid id | isDefault id | registration id | regState id =>
    -- these are always answered
    exact absurd h (by simp [Request.refusal?])

/-- An agent that was taken into service on thread `1` and has an account; from now on its engine
makes no calls. -/
def inService : Agent Unit Unit Unit :=
  let requests : List (Request Unit) :=
    [.create, .init {}, .start, .createAccount { idUri := "sip:a@example.com" } true]
  let a : Agent Unit Unit Unit :=
    requests.foldl (fun a r => (a.perform 1 r).2) { pipeline := { registry := {}, devices := () } }
  { a with engine := a.engine.fail (.command .makePlay) .notFound }

/-- Requests that are refused one after the other: at the wrong stage, for an address that is none,
for an account that the engine does not hold, and since calls were told to fail. -/
theorem refused_leaves_unchanged_in_turn :
    let again : Request Unit := .create
    let nameless : Request Unit := .createAccount { idUri := "b@example.com" } true
    let stranger : Request Unit := .setDefault 7
    let call : Request Unit := .call 0 "sip:b@example.com" .play
    let a₁ := (inService.perform 2 again).2
    let a₂ := (a₁.perform 2 nameless).2
    let a₃ := (a₂.perform 2 stranger).2
    let a₄ := (a₃.perform 2 call).2
    (inService.directory.ids = [0] ∧ inService.engine.defaultAccount = some 0
      ∧ inService.engine.nextAccount = 1)
    ∧ (again ≠ .destroy
      ∧ again.refusal? (inService.perform 2 again).1
        = some (.engine "create" EngineStatus.invalidOperation)
      ∧ Unchanged 2 (some .create) inService a₁)
    ∧ (nameless ≠ .destroy
      ∧ nameless.refusal? (a₁.perform 2 nameless).1
        = some (.engine "create account" EngineStatus.invalidUri)
      ∧ Unchanged 2 (some .accountAdd) a₁ a₂)
    ∧ (stranger ≠ .destroy
      ∧ stranger.refusal? (a₂.perform 2 stranger).1 = some (.invalidAccount 7)
      ∧ Unchanged 2 none a₂ a₃)
    ∧ (call ≠ .destroy
      ∧ call.refusal? (a₃.perform 2 call).1 = some (.engine "make play" EngineStatus.notFound)
      ∧ Unchanged 2 (some .makePlay) a₃ a₄) := by
  intro again nameless stranger call a₁ a₂ a₃ a₄
  have hagain : again ≠ .destroy := by simp [again]
  have hnameless : nameless ≠ .destroy := by simp [nameless]
  have hstranger : stranger ≠ .destroy := by simp [stranger]
  have hcall : call ≠ .destroy := by simp [call]
  have hagain' : again.refusal? (inService.perform 2 again).1
      = some (.engine "create" EngineStatus.invalidOperation) := rfl
  have hnameless' : nameless.refusal? (a₁.perform 2 nameless).1
      = some (.engine "create account" EngineStatus.invalidUri) := rfl
  have hstranger' : stranger.refusal? (a₂.perform 2 stranger).1 = some (.invalidAccount 7) := rfl
  have hcall' : call.refusal? (a₃.perform 2 call).1
      = some (.engine "make play" EngineStatus.notFound) := rfl
  exact ⟨⟨rfl, rfl, rfl⟩,
    ⟨hagain, hagain', refused_leaves_unchanged inService 2 hagain hagain'⟩,
    ⟨hnameless, hnameless', refused_leaves_unchanged a₁ 2 hnameless hnameless'⟩,
    ⟨hstranger, hstranger', refused_leaves_unchanged a₂ 2 hstranger hstranger'⟩,
    ⟨hcall, hcall', refused_leaves_unchanged a₃ 2 hcall hcall'⟩⟩

end Agent
end SipStills
