/-
# What requests reach

A request consists in at most one operation of the engine (`Request.op?`), which the agent hands on
or does not (`Agent.passes`).  Apart from that operation the engine is at most asked to register a
thread (`reaches_perform`); so everything that an act does to the engine is done by operations, and
none of them is a command once the teardown has begun (`Does.engine`).

All but four requests spare the pipeline: they neither change it nor depend on it
(`perform_withPipeline`).
-/
import SipStills.Proofs.Agent.History
import SipStills.Proofs.Engine.Record

namespace SipStills

variable {δ κ γ α : Type}

/-- The operation of the engine that a request consists in. -/
def Request.op? : Request γ → Option EngineOp
  | .create => some .create
  | .init settings => some (.init settings)
  | .nullSound => some .nullSound
  | .createTransport kind settings => some (.createTransport kind (settings.getD {}))
  | .start => some .start
  | .destroy => some .destroy
  | .createAccount settings makeDefault => some (.addAccount settings makeDefault)
  | .listCodecs _ _ => some (.listCodecs codecCapacity)
  | .setDefault id => some (.setDefault id)
  | .info id => some (.info id)
  | .call id target settings => some (.makePlay id target settings)
  | .shutdown id => some (.deleteAccount id)
  | .setConsumer _ | .account _ | .accounts | .defaultAccount | .engineState | .endSession _
  | .isValid _ | .isDefault _ | .registration _ | .regState _ => none

namespace Agent

/-- The agent hands the operation of a request on to its engine. -/
def passes (a : Agent δ κ γ) : Request γ → Bool
  | .create | .init _ | .nullSound | .createTransport _ _ | .start | .destroy
  | .listCodecs _ _ => !a.closing
  | .createAccount settings _ =>
    !a.closing && decide (settings.credentials.length ≤ maxCredentials)
  | .setDefault id | .info id | .call id _ _ => a.serves && a.engine.holds id
  | .shutdown id => a.serves && a.directory.contains id && !a.hasLost id
  | .setConsumer _ | .account _ | .accounts | .defaultAccount | .engineState | .endSession _
  | .isValid _ | .isDefault _ | .registration _ | .regState _ => false

lemma passes_of_closing {a : Agent δ κ γ} (h : a.closing = true) (r : Request γ) :
    a.passes r = false := by
  cases r <;> simp [passes, serves, h]

/-! ### What reaches the engine -/

/-- The engine has carried out an operation, if there was one, and was asked at most to register a
thread before. -/
def Reaches (e : Engine) (op? : Option EngineOp) (e' : Engine) : Prop :=
  ∃ before : List EngineOp, (∀ op ∈ before, op = .registerThread)
    ∧ e' = (e.run (before ++ op?.toList)).2

lemma reaches_nothing (e : Engine) : Reaches e none e := ⟨[], by simp, rfl⟩

lemma reaches_ensureThread (t : ThreadId) (a : Agent δ κ γ) :
    Reaches a.engine none (a.ensureThread t).engine := by
  unfold ensureThread ThreadGate.ensure
  dsimp only
  split
  · exact reaches_nothing a.engine
  · refine ⟨[.registerThread], by simp, ?_⟩
    -- a registration that the engine refuses leaves it as it was
    cases hregister : a.engine.registerThread <;>
      simp [Engine.run, Engine.apply, hregister]

variable {operation : String} {run : Engine → Except EngineStatus α × Engine} (op : EngineOp)

/-- A command that the engine refuses fails with the status that the engine answers. -/
lemma issue_of_refused {a : Agent δ κ γ} {status : EngineStatus}
    (h : (run a.engine).1 = .error status) :
    a.issue operation run
      = (.error (.engine operation status), { a with engine := (run a.engine).2 }) := by
  simp only [issue, h]
  rfl

/-- A command that the engine carries out succeeds with the answer of the engine. -/
lemma issue_of_ok {a : Agent δ κ γ} {answer : α} (h : (run a.engine).1 = .ok answer) :
    a.issue operation run = (.ok answer, { a with engine := (run a.engine).2 }) := by
  simp only [issue, h]
  rfl

/-- A thread is registered, and then a command is issued. -/
lemma reaches_issue (h : ∀ e : Engine, (e.apply op).2 = (run e).2) (t : ThreadId)
    (a : Agent δ κ γ) :
    Reaches a.engine (some op) (run (a.ensureThread t).engine).2 := by
  obtain ⟨before, hbefore, hensured⟩ := reaches_ensureThread t a
  refine ⟨before, hbefore, ?_⟩
  rw [Engine.run_append, ← List.append_nil before, ← Option.toList_none, ← hensured]
  exact (h _).symm

lemma reaches_command (h : ∀ e : Engine, (e.apply op).2 = (run e).2) (t : ThreadId)
    (a : Agent δ κ γ) :
    Reaches a.engine (if !a.closing then some op else none)
      (a.command operation t run).2.engine := by
  unfold command
  cases a.closing with
  | true => exact reaches_nothing a.engine
  | false => exact reaches_issue op h t a

lemma reaches_accountCommand (h : ∀ e : Engine, (e.apply op).2 = (run e).2) (t : ThreadId)
    (id : AccountId) (a : Agent δ κ γ) :
    Reaches a.engine (if a.serves && a.engine.holds id then some op else none)
      (a.accountCommand operation t id run).2.engine := by
  unfold accountCommand
  cases a.serves with
  | false => exact reaches_nothing a.engine
  | true =>
    simp only [if_true, holds_ensureThread, Bool.true_and]
    cases a.engine.holds id with
    | false => exact reaches_ensureThread t a
    | true => exact reaches_issue op h t a

lemma reaches_start (t : ThreadId) (a : Agent δ κ γ) :
    Reaches a.engine (if !a.closing then some .start else none) (a.start t).2.engine := by
  have hengine : (a.start t).2.engine = (a.command "start" t Engine.start).2.engine := by
    unfold start
    split <;> (rename_i hcommand; rw [hcommand])
    rfl
  rw [hengine]
  exact reaches_command _ (fun _ => rfl) t a

lemma reaches_destroy (t : ThreadId) (a : Agent δ κ γ) :
    Reaches a.engine (if !a.closing then some .destroy else none) (a.destroy t).2.engine := by
  unfold destroy
  cases a.closing with
  | true => exact reaches_nothing a.engine
  | false => exact reaches_issue .destroy (fun _ => rfl) t a.beginDestroy

lemma reaches_createAccount (t : ThreadId) (settings : AccountSettings) (makeDefault : Bool)
    (a : Agent δ κ γ) :
    Reaches a.engine
      (if !a.closing && decide (settings.credentials.length ≤ maxCredentials) then
        some (.addAccount settings makeDefault) else none)
      (a.createAccount t settings makeDefault).2.engine := by
  by_cases hmany : maxCredentials < settings.credentials.length
  · simpa [createAccount, hmany, Nat.not_le.2 hmany] using reaches_nothing a.engine
  · have hengine : (a.createAccount t settings makeDefault).2.engine
        = (a.command "create account" t (Engine.addAccount settings makeDefault)).2.engine := by
      simp only [createAccount, if_neg hmany]
      split <;> (rename_i hcommand; rw [hcommand])
    rw [hengine]
    simpa [Nat.not_lt.1 hmany] using
      reaches_command (.addAccount settings makeDefault) (fun _ => rfl) t a

lemma reaches_listCodecs (worker : ThreadId) (wanted : Option Nat) (a : Agent δ κ γ) :
    Reaches a.engine (if !a.closing then some (.listCodecs codecCapacity) else none)
      (a.listCodecs worker wanted).2.engine := by
  unfold listCodecs queryCodecs
  cases a.closing with
  | true => exact reaches_nothing a.engine
  | false => exact reaches_issue (.listCodecs codecCapacity) (fun _ => rfl) worker a

/-- Deleting the account is what reaches the engine of a shutdown, whether it succeeds or not. -/
lemma engine_shutdown (t : ThreadId) (id : AccountId) (a : Agent δ κ γ) :
    (a.shutdown t id).2.engine
      = if a.serves && a.directory.contains id then
          if a.hasLost id then (a.ensureThread t).engine
          else ((a.ensureThread t).issue "delete account" (Engine.deleteAccount id)).2.engine
        else a.engine := by
  unfold shutdown
  simp only [hasLost_ensureThread]
  cases a.serves <;> cases a.directory.contains id <;> cases a.hasLost id <;> try rfl
  -- only the case in which the engine is asked is left
  simp only [Bool.not_true, Bool.or_self, Bool.false_eq_true, if_false, Bool.and_self, if_true]
  split <;> (rename_i hissue; rw [hissue])
  rfl

lemma reaches_shutdown (t : ThreadId) (id : AccountId) (a : Agent δ κ γ) :
    Reaches a.engine
      (if a.serves && a.directory.contains id && !a.hasLost id then some (.deleteAccount id)
        else none)
      (a.shutdown t id).2.engine := by
  rw [engine_shutdown]
  cases a.serves && a.directory.contains id with
  | false => exact reaches_nothing a.engine
  | true =>
    cases a.hasLost id with
    | true => exact reaches_ensureThread t a
    | false => exact reaches_issue (.deleteAccount id) (fun _ => rfl) t a

lemma reaches_isValid (t : ThreadId) (id : AccountId) (a : Agent δ κ γ) :
    Reaches a.engine none (a.isValid t id).2.engine := by
  unfold isValid
  split
  · exact reaches_ensureThread t a
  · exact reaches_nothing a.engine

lemma reaches_isDefault (t : ThreadId) (id : AccountId) (a : Agent δ κ γ) :
    Reaches a.engine none (a.isDefault t id).2.engine := by
  unfold isDefault
  split
  · exact reaches_ensureThread t a
  · exact reaches_nothing a.engine

lemma engine_setConsumer (consumer : γ) (a : Agent δ κ γ) :
    (a.setConsumer consumer).2.engine = a.engine := by
  unfold setConsumer
  split <;> rfl

/-- What a request does to the engine: it is handed the operation of the request, or nothing. -/
lemma reaches_perform (t : ThreadId) (a : Agent δ κ γ) (r : Request γ) :
    Reaches a.engine (if a.passes r then r.op? else none) (a.perform t r).2.engine := by
  cases r with
  | create => exact reaches_command _ (fun _ => rfl) t a
  | init settings => exact reaches_command _ (fun _ => rfl) t a
  | nullSound => exact reaches_command _ (fun _ => rfl) t a
  | createTransport kind settings => exact reaches_command _ (fun _ => rfl) t a
  | start => exact reaches_start t a
  | destroy => exact reaches_destroy t a
  | setConsumer consumer =>
    simp only [perform, engine_setConsumer]
    exact reaches_nothing a.engine
  | createAccount settings makeDefault => exact reaches_createAccount t settings makeDefault a
  | listCodecs worker wanted => exact reaches_listCodecs worker wanted a
  | setDefault id => exact reaches_accountCommand _ (fun _ => rfl) t id a
  | info id => exact reaches_accountCommand _ (fun _ => rfl) t id a
  | call id target settings =>
    exact reaches_accountCommand (.makePlay id target settings) (fun _ => rfl) t id a
  | shutdown id => exact reaches_shutdown t id a
  | defaultAccount => exact reaches_ensureThread t a
  | engineState => exact reaches_ensureThread t a
  | isValid id => exact reaches_isValid t id a
  | isDefault id => exact reaches_isDefault t id a
  | account id | accounts | endSession callee | registration id | regState id =>
    exact reaches_nothing a.engine

/-- What a request records with the engine: the command that it is handed, if it is handed one. -/
lemma log_perform (t : ThreadId) (a : Agent δ κ γ) (r : Request γ) :
    (a.perform t r).2.engine.log
      = a.engine.log
        ++ ((if a.passes r then r.op? else none).bind EngineOp.command?).toList := by
  obtain ⟨before, hbefore, hengine⟩ := reaches_perform t a r
  have hsilent : before.filterMap EngineOp.command? = [] := by
    rw [List.filterMap_eq_nil_iff]
    intro op hop
    rw [hbefore op hop]
    rfl
  rw [hengine, Engine.log_run, List.filterMap_append, hsilent, List.nil_append]
  cases (if a.passes r then r.op? else none) with
  | none => rfl
  | some op => cases h : op.command? <;> simp [h]

/-- A report changes nothing but the directory. -/
lemma eq_of_enter? {a a' : Agent δ κ γ} {id : AccountId} {report : RegReport}
    (h : a.enter? id report = some a') : a' = { a with directory := a'.directory } := by
  unfold enter? at h
  obtain ⟨b, hadopt, rfl⟩ := Option.map_eq_some_iff.1 h
  unfold adopt? at hadopt
  split at hadopt
  · obtain rfl := Option.some.inj hadopt
    rfl
  · split at hadopt
    · obtain rfl := Option.some.inj hadopt
      rfl
    · exact absurd hadopt (by simp)

/-- An act does to the engine what operations do.  Once the teardown has begun none of them is a
command, unless it is one that passes by the agent. -/
lemma Does.engine {kind : EngineOp → Prop} {a a' : Agent δ κ γ} {x : Act γ}
    (h : Does (.byOps kind) a x a') :
    ∃ ops, a'.engine = (a.engine.run ops).2
      ∧ (a.closing = true → ∀ op ∈ ops, op.command? = none ∨ kind op) := by
  have hkept : ∃ ops, a.engine = (a.engine.run ops).2
      ∧ (a.closing = true → ∀ op ∈ ops, op.command? = none ∨ kind op) :=
    ⟨[], rfl, fun _ op hop => absurd hop (by simp)⟩
  have hregister {before : List EngineOp} (hbefore : ∀ op ∈ before, op = .registerThread) :
      ∀ op ∈ before, op.command? = none ∨ kind op := by
    intro op hop
    rw [hbefore op hop]
    exact .inl rfl
  cases h with
  | performed t r a =>
    obtain ⟨before, hbefore, hengine⟩ := reaches_perform t a r
    refine ⟨_, hengine, fun hclosing => ?_⟩
    simpa [passes_of_closing hclosing] using hregister hbefore
  | registered t a =>
    obtain ⟨before, hbefore, hengine⟩ := reaches_ensureThread t a
    exact ⟨_, hengine, fun _ => by simpa using hregister hbefore⟩
  | entered henter =>
    rw [eq_of_enter? henter]
    exact hkept
  | prepared e a => exact hkept
  | changed hchange a =>
    obtain ⟨op, hkind, rfl⟩ := hchange
    refine ⟨[op], rfl, fun _ op' hop' => ?_⟩
    obtain rfl := List.mem_singleton.1 hop'
    exact .inr hkind
  | dropped a => exact hkept

/-! ### What spares the pipeline -/

/-- The agent with another pipeline. -/
def withPipeline (p : Pipeline δ κ γ) (a : Agent δ κ γ) : Agent δ κ γ := { a with pipeline := p }

end Agent

/-- The request neither changes the pipeline nor depends on it. -/
def Request.SparesPipeline : Request γ → Prop
  | .start | .setConsumer _ | .endSession _ | .destroy => False
  | _ => True

namespace Agent

section

variable (p : Pipeline δ κ γ) (a : Agent δ κ γ)

@[simp] lemma engine_withPipeline : (a.withPipeline p).engine = a.engine := rfl

@[simp] lemma directory_withPipeline : (a.withPipeline p).directory = a.directory := rfl

@[simp] lemma closing_withPipeline : (a.withPipeline p).closing = a.closing := rfl

@[simp] lemma serves_withPipeline : (a.withPipeline p).serves = a.serves := rfl

@[simp] lemma hasLost_withPipeline (id : AccountId) :
    (a.withPipeline p).hasLost id = a.hasLost id := rfl

@[simp] lemma ensureThread_withPipeline (t : ThreadId) :
    (a.withPipeline p).ensureThread t = (a.ensureThread t).withPipeline p := rfl

@[simp] lemma issue_withPipeline (operation : String)
    (run : Engine → Except EngineStatus α × Engine) :
    (a.withPipeline p).issue operation run
      = ((a.issue operation run).1, (a.issue operation run).2.withPipeline p) := rfl

@[simp] lemma command_withPipeline (operation : String) (t : ThreadId)
    (run : Engine → Except EngineStatus α × Engine) :
    (a.withPipeline p).command operation t run
      = ((a.command operation t run).1, (a.command operation t run).2.withPipeline p) := by
  cases hclosing : a.closing <;> simp [command, hclosing]

@[simp] lemma accountCommand_withPipeline (operation : String) (t : ThreadId) (id : AccountId)
    (run : Engine → Except EngineStatus α × Engine) :
    (a.withPipeline p).accountCommand operation t id run
      = ((a.accountCommand operation t id run).1,
        (a.accountCommand operation t id run).2.withPipeline p) := by
  cases hserves : a.serves <;> cases hholds : a.engine.holds id <;>
    simp [accountCommand, hserves, hholds]

lemma createAccount_withPipeline (t : ThreadId) (settings : AccountSettings)
    (makeDefault : Bool) :
    (a.withPipeline p).createAccount t settings makeDefault
      = ((a.createAccount t settings makeDefault).1,
        (a.createAccount t settings makeDefault).2.withPipeline p) := by
  unfold createAccount
  simp only [command_withPipeline]
  split
  · rfl
  · rcases a.command "create account" t (Engine.addAccount settings makeDefault) with ⟨_ | _, b⟩ <;>
      rfl

lemma listCodecs_withPipeline (worker : ThreadId) (wanted : Option Nat) :
    (a.withPipeline p).listCodecs worker wanted
      = ((a.listCodecs worker wanted).1, (a.listCodecs worker wanted).2.withPipeline p) := by
  unfold listCodecs queryCodecs
  rw [closing_withPipeline]
  cases a.closing <;> cases wanted <;> rfl

lemma isValid_withPipeline (t : ThreadId) (id : AccountId) :
    (a.withPipeline p).isValid t id = ((a.isValid t id).1, (a.isValid t id).2.withPipeline p) := by
  unfold isValid
  rw [serves_withPipeline]
  cases a.serves <;> rfl

lemma isDefault_withPipeline (t : ThreadId) (id : AccountId) :
    (a.withPipeline p).isDefault t id
      = ((a.isDefault t id).1, (a.isDefault t id).2.withPipeline p) := by
  unfold isDefault
  rw [serves_withPipeline]
  cases a.serves <;> rfl

lemma shutdown_withPipeline (t : ThreadId) (id : AccountId) :
    (a.withPipeline p).shutdown t id
      = ((a.shutdown t id).1, (a.shutdown t id).2.withPipeline p) := by
  unfold shutdown
  cases hserves : a.serves <;> cases hknown : a.directory.contains id <;>
    cases hlost : a.hasLost id <;> simp [hserves, hknown, hlost]
  -- the record is forgotten, at once or after the engine has deleted the account
  · rcases (a.ensureThread t).issue "delete account" (Engine.deleteAccount id) with ⟨_ | _, b⟩ <;>
      rfl
  · rfl

/-- A request that spares the pipeline is carried out in the same way whatever the pipeline is. -/
lemma perform_withPipeline (t : ThreadId) {r : Request γ} (hr : r.SparesPipeline) :
    (a.withPipeline p).perform t r = ((a.perform t r).1, (a.perform t r).2.withPipeline p) := by
  cases r with
  | start | setConsumer consumer | endSession callee | destroy => exact hr.elim
  | create | init settings | nullSound | createTransport kind settings =>
    exact command_withPipeline p a _ t _
  | createAccount settings makeDefault =>
    exact createAccount_withPipeline p a t settings makeDefault
  | listCodecs worker wanted => exact listCodecs_withPipeline p a worker wanted
  | setDefault id | info id => exact accountCommand_withPipeline p a _ t id _
  | call id target settings => simp only [perform, call, accountCommand_withPipeline]
  | shutdown id => exact shutdown_withPipeline p a t id
  | isValid id => exact isValid_withPipeline p a t id
  | isDefault id => exact isDefault_withPipeline p a t id
  | account id | accounts | defaultAccount | engineState | registration id | regState id => rfl

end

/-- A request that spares the pipeline leaves it as it is. -/
lemma pipeline_perform (t : ThreadId) (a : Agent δ κ γ) {r : Request γ} (hr : r.SparesPipeline) :
    (a.perform t r).2.pipeline = a.pipeline :=
  congrArg (·.2.pipeline) (perform_withPipeline a.pipeline a t hr)

end Agent
end SipStills
