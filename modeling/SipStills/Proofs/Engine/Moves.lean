/-
# What can happen to an engine

An engine takes commands, is told what fails, hears from registrars, and drops accounts.
`EngineOp` lists these operations, and `Engine.apply` carries one out and tells which number it has
given out (`Issue`), if it has given out one.

`Engine.Move` says once what an operation can do to what the engine holds, with the conditions
under which it does it; a command that is refused does nothing.  `move_apply` is that every
operation is such a move, apart from the record of the command.  What holds along all runs is
proved from the moves alone, and no command is opened again.
-/
import Mathlib.Tactic.Lemma
import SipStills.Engine

namespace SipStills

/-- What can happen to an engine. -/
inductive EngineOp where
  | create
  | init (settings : EndpointSettings)
  | start
  | destroy
  | nullSound
  | createTransport (kind : TransportKind) (settings : TransportSettings)
  | addAccount (settings : AccountSettings) (makeDefault : Bool)
  | setDefault (id : AccountId)
  | deleteAccount (id : AccountId)
  | info (id : AccountId)
  | listCodecs (capacity : Nat)
  | makePlay (id : AccountId) (target : String) (settings : CallSettings)
  /-- A thread asks to be registered. -/
  | registerThread
  /-- A request fails from now on. -/
  | fail (request : EngineRequest) (status : EngineStatus)
  /-- A request no longer fails. -/
  | mend (request : EngineRequest)
  /-- An attempt to register an account starts. -/
  | attempt (id : AccountId) (renew : Bool)
  /-- The registrar of an account has answered. -/
  | answer (id : AccountId) (status : StatusCode) (expires : UInt32)
  /-- An account is dropped without a command. -/
  | invalidate (id : AccountId)
  /-- Registrations are answered without a registrar from now on, or no longer. -/
  | answersItself (on : Bool)
  /-- The registrations that wait for such an answer are taken up. -/
  | takeUnanswered

/-- A number that the engine has given out. -/
inductive Issue where
  /-- The number of an account. -/
  | account (id : AccountId)
  /-- The number of a transport. -/
  | transport (id : Nat)
  /-- The number of a call, and the call. -/
  | call (id : Nat) (play : Play)
deriving DecidableEq

namespace Engine

variable {α : Type}

/-- The number that is given out with the answer to a command, if any is. -/
def giving (issue? : α → Option Issue) (r : Except EngineStatus α × Engine) :
    Option Issue × Engine :=
  (r.1.toOption.bind issue?, r.2)

/-- The answer to a command is no number. -/
def silent (_ : α) : Option Issue := none

/-- Carries out an operation; the answer is the number that it gives out. -/
def apply (e : Engine) : EngineOp → Option Issue × Engine
  | .create => giving silent e.create
  | .init settings => giving silent (init settings e)
  | .start => giving silent e.start
  | .destroy => giving silent e.destroy
  | .nullSound => giving silent e.nullSound
  | .createTransport kind settings =>
    giving (fun n => some (.transport n)) (createTransport kind settings e)
  | .addAccount settings makeDefault =>
    giving (fun id => some (.account id)) (addAccount settings makeDefault e)
  | .setDefault id => giving silent (setDefault id e)
  | .deleteAccount id => giving silent (deleteAccount id e)
  | .info id => giving silent (info id e)
  | .listCodecs capacity => giving silent (listCodecs capacity e)
  | .makePlay id target settings =>
    giving (fun n => some (.call n ⟨id, target, settings⟩)) (makePlay id target settings e)
  | .registerThread =>
    match e.registerThread with
    | .error _ => (none, e)
    | .ok e => (none, e)
  | .fail request status => (none, e.fail request status)
  | .mend request => (none, e.mend request)
  | .attempt _ _ => (none, e)
  | .answer id status expires =>
    match e.answer id status expires with
    | none => (none, e)
    | some (_, e) => (none, e)
  | .invalidate id => (none, (e.invalidate id).2)
  | .answersItself on => (none, { e with answersItself := on })
  | .takeUnanswered => (none, { e with unanswered := [] })

/-! ### Commands -/

/-- The engine with one more command recorded. -/
def note (c : EngineCommand) (e : Engine) : Engine := { e with log := e.log ++ [c] }

@[simp] lemma holds_note (c : EngineCommand) (id : AccountId) (e : Engine) :
    (e.note c).holds id = e.holds id := rfl

@[simp] lemma state_note (c : EngineCommand) (e : Engine) : (e.note c).state = e.state := rfl

@[simp] lemma plays_note (c : EngineCommand) (e : Engine) : (e.note c).plays = e.plays := rfl

/-- Of an account that the engine does not hold, nothing is taken out. -/
lemma filter_of_not_holds {e : Engine} {id : AccountId} (h : ¬ e.holds id = true) :
    (e.accounts.filter fun a => a.id != id) = e.accounts := by
  rw [List.filter_eq_self]
  intro a ha
  simp only [holds, account?, List.find?_isSome, not_exists, not_and] at h
  simpa using h a ha

/-- A command that is told to fail is recorded, and that is all. -/
lemma receive_of_failing {c : EngineCommand} {e : Engine} {status : EngineStatus}
    (h : e.failure? (.command c) = some status)
    (run : Engine → Except EngineStatus α × Engine) :
    receive c run e = (.error status, e.note c) := by
  simp [receive, note, h]

/-- A command that is not told to fail is carried out by the engine that has recorded it. -/
lemma receive_of_not_failing {c : EngineCommand} {e : Engine}
    (h : e.failure? (.command c) = none) (run : Engine → Except EngineStatus α × Engine) :
    receive c run e = run (e.note c) := by
  simp [receive, note, h]

/-- A command is told to fail, or it is carried out. -/
lemma receive_cases (c : EngineCommand) (run : Engine → Except EngineStatus α × Engine)
    (e : Engine) :
    (∃ status, receive c run e = (.error status, e.note c)) ∨ receive c run e = run (e.note c) := by
  cases hfailure : e.failure? (.command c) with
  | some status => exact .inl ⟨status, receive_of_failing hfailure run⟩
  | none => exact .inr (receive_of_not_failing hfailure run)

/-- An account that the engine holds is deleted, unless the command is told to fail. -/
lemma deleteAccount_of_holds {e : Engine} {id : AccountId}
    (h : e.failure? (.command .accountDelete) = none) (hholds : e.holds id = true) :
    deleteAccount id e = (.ok (), (e.note .accountDelete).without id) := by
  simp [deleteAccount, receive_of_not_failing h, hholds, without]

/-! ### The engine's own side -/

lemma eq_of_registerThread {e e' : Engine} (h : e.registerThread = .ok e') :
    e' = { e with threads := e.threads + 1 } := by
  unfold registerThread at h
  split at h
  · exact absurd h (by simp)
  · exact (Except.ok.inj h).symm

/-- An account after the answer of a registrar to the account of number `id`. -/
def answerIn (id : AccountId) (status : StatusCode) (expires : UInt32) (a : EngineAccount) :
    EngineAccount :=
  if a.id = id then { a with info := answered a.info status expires } else a

lemma eq_of_answer {e : Engine} {id : AccountId} {status : StatusCode} {expires : UInt32}
    {x : AccountInfo × Engine} (h : e.answer id status expires = some x) :
    x.2 = { e with accounts := e.accounts.map (answerIn id status expires) } := by
  unfold answer at h
  obtain ⟨_, -, rfl⟩ := Option.map_eq_some_iff.1 h
  rfl

/-- The registrar's answer is no command. -/
lemma log_answer {e e' : Engine} {id : AccountId} {status : StatusCode} {expires : UInt32}
    {info : AccountInfo} (h : e.answer id status expires = some (info, e')) : e'.log = e.log := by
  obtain rfl : e' = _ := eq_of_answer h
  rfl

/-! ### Moves -/

/-- What an operation does to an engine, and what it gives out. -/
inductive Move : Engine → Option Issue → Engine → Prop where
  /-- What the engine holds stays the same. -/
  | aside (e : Engine) (log : List EngineCommand) (failure? : EngineRequest → Option EngineStatus)
      (threads : Nat) (answersItself : Bool) (unanswered : List (AccountId × UInt32)) :
      Move e none { e with log, failure?, threads, answersItself, unanswered }
  | created {e : Engine} (h : e.state = .null) : Move e none { e with state := .created }
  | initialised {e : Engine} (h : e.state = .created) : Move e none { e with state := .init }
  | started {e : Engine} (h : e.state = .init) : Move e none { e with state := .running }
  | destroyed (e : Engine) :
      Move e none
        { e with state := .null, accounts := [], defaultAccount := none, transports := [] }
  | transportCreated {e : Engine} (h : e.state.serves = true) (kind : TransportKind)
      (port : UInt16) :
      Move e (some (.transport e.nextTransport))
        { e with
          nextTransport := e.nextTransport + 1
          transports := e.transports ++ [⟨e.nextTransport, kind, port⟩] }
  | accountAdded {e : Engine} (h : e.state.serves = true) (settings : AccountSettings)
      (makeDefault : Bool) (unanswered : List (AccountId × UInt32)) :
      Move e (some (.account e.nextAccount))
        { e with
          nextAccount := e.nextAccount + 1
          accounts := e.accounts ++ [⟨e.nextAccount, settings.timeout, newInfo settings⟩]
          defaultAccount :=
            if makeDefault then some (e.nextAccount : AccountId) else e.defaultAccount
          unanswered }
  | defaultSet {e : Engine} {id : AccountId} (h : e.holds id = true) :
      Move e none { e with defaultAccount := some id }
  | accountDropped (e : Engine) (id : AccountId) : Move e none (e.without id)
  | registrarAnswered (e : Engine) (id : AccountId) (status : StatusCode) (expires : UInt32) :
      Move e none { e with accounts := e.accounts.map (answerIn id status expires) }
  | called {e : Engine} {id : AccountId} {target : String} (settings : CallSettings)
      (hrunning : e.state = .running) (hholds : e.holds id = true)
      (htarget : isSipUri target = true) :
      Move e (some (.call e.nextCall ⟨id, target, settings⟩))
        { e with
          nextCall := e.nextCall + 1
          plays := e.plays ++ [⟨id, target, settings⟩] }

lemma move_refl (e : Engine) : Move e none e :=
  .aside e e.log e.failure? e.threads e.answersItself e.unanswered

/-- What is carried out is a move; the number that it gives out is read off its answer. -/
def Moves (issue? : α → Option Issue) (run : Engine → Except EngineStatus α × Engine)
    (e : Engine) : Prop :=
  Move e (giving issue? (run e)).1 (giving issue? (run e)).2

section

variable {issue? : α → Option Issue} {run : Engine → Except EngineStatus α × Engine} {e : Engine}

lemma moves_atStage {allowed : EngineState → Bool}
    (h : allowed e.state = true → Moves issue? run e) : Moves issue? (atStage allowed run) e := by
  unfold Moves atStage
  split
  · rename_i hallowed
    exact h hallowed
  · exact move_refl e

lemma moves_holding {id : AccountId} (h : e.holds id = true → Moves issue? run e) :
    Moves issue? (holding id run) e := by
  unfold Moves holding
  split
  · rename_i hholds
    exact h hholds
  · exact move_refl e

/-- A command is a move of the engine that has recorded it, if it is one when it is carried out. -/
lemma move_receive {c : EngineCommand} (h : Moves issue? run (e.note c)) :
    ∃ log, Move { e with log } (giving issue? (receive c run e)).1
      (giving issue? (receive c run e)).2 := by
  refine ⟨e.log ++ [c], ?_⟩
  rcases receive_cases c run e with ⟨status, hrefused⟩ | hdone
  · rw [hrefused]
    exact move_refl (e.note c)
  · rw [hdone]
    exact h

end

/-- Whatever happens to an engine is a move, apart from the record of the command. -/
lemma move_apply (e : Engine) (op : EngineOp) :
    ∃ log, Move { e with log } (e.apply op).1 (e.apply op).2 := by
  cases op with
  | create => exact move_receive (moves_atStage fun h => .created (of_decide_eq_true h))
  | init settings =>
    exact move_receive (moves_atStage fun h => .initialised (of_decide_eq_true h))
  | start => exact move_receive (moves_atStage fun h => .started (of_decide_eq_true h))
  | destroy =>
    refine move_receive ?_
    unfold Moves
    dsimp only
    split
    · exact move_refl (e.note .destroy)
    · exact .destroyed (e.note .destroy)
  | nullSound => exact move_receive (moves_atStage fun _ => move_refl (e.note .nullSound))
  | createTransport kind settings =>
    exact move_receive (moves_atStage fun h => .transportCreated h kind settings.port)
  | addAccount settings makeDefault =>
    refine move_receive (moves_atStage fun h => ?_)
    unfold Moves
    split
    · exact move_refl (e.note .accountAdd)
    · exact .accountAdded h settings makeDefault _
  | setDefault id => exact move_receive (moves_holding fun h => .defaultSet h)
  | deleteAccount id =>
    refine move_receive ?_
    unfold Moves
    dsimp only
    split
    · exact .accountDropped (e.note .accountDelete) id
    · rename_i habsent
      -- what is taken out of the accounts that are held is nothing
      simp only [giving, filter_of_not_holds habsent]
      exact move_refl (e.note .accountDelete)
  | info id =>
    refine move_receive ?_
    unfold Moves
    dsimp only
    split
    · exact move_refl (e.note .accountInfo)
    · exact move_refl (e.note .accountInfo)
  | listCodecs capacity => exact move_receive (moves_atStage fun _ => move_refl (e.note _))
  | makePlay id target settings =>
    refine move_receive (moves_atStage fun hrunning => moves_holding fun hholds => ?_)
    unfold Moves
    split
    · rename_i htarget
      exact .called settings (of_decide_eq_true hrunning) hholds htarget
    · exact move_refl (e.note .makePlay)
  | registerThread =>
    refine ⟨e.log, ?_⟩
    cases hregister : e.registerThread with
    | error status =>
      simp only [apply, hregister]
      exact move_refl e
    | ok e' =>
      obtain rfl := eq_of_registerThread hregister
      simp only [apply, hregister]
      exact .aside e e.log e.failure? (e.threads + 1) e.answersItself e.unanswered
  | fail request status =>
    exact ⟨e.log, .aside e e.log _ e.threads e.answersItself e.unanswered⟩
  | mend request => exact ⟨e.log, .aside e e.log _ e.threads e.answersItself e.unanswered⟩
  | attempt id renew => exact ⟨e.log, move_refl e⟩
  | answer id status expires =>
    refine ⟨e.log, ?_⟩
    cases hanswer : e.answer id status expires with
    | none =>
      simp only [apply, hanswer]
      exact move_refl e
    | some x =>
      simp only [apply, hanswer]
      rw [eq_of_answer hanswer]
      exact .registrarAnswered e id status expires
  | invalidate id => exact ⟨e.log, .accountDropped e id⟩
  | answersItself on =>
    exact ⟨e.log, .aside e e.log e.failure? e.threads on e.unanswered⟩
  | takeUnanswered => exact ⟨e.log, .aside e e.log e.failure? e.threads e.answersItself []⟩

end Engine
end SipStills
