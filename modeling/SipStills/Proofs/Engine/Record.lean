/-
# What an engine has recorded, and what it has lost

Every command is recorded, whether it is carried out or refused, and nothing else is
(`log_run`).

An account that the engine has numbered and does not hold any more is `Lost`: whatever happens
afterwards, it is not held again (`Lost.run`), since the engine numbers no account twice.  So an
account is deleted at most once.

What is kept by all moves is kept along runs; `run_kept` says so once, for this file and for others.
-/
import SipStills.Proofs.Engine.Invariant

namespace SipStills

/-- The command that an operation consists in, if it is a command. -/
def EngineOp.command? : EngineOp → Option EngineCommand
  | .create => some .create
  | .init _ => some .init
  | .start => some .start
  | .destroy => some .destroy
  | .nullSound => some .nullSound
  | .createTransport _ _ => some .transportCreate
  | .addAccount _ _ => some .accountAdd
  | .setDefault _ => some .accountSetDefault
  | .deleteAccount _ => some .accountDelete
  | .info _ => some .accountInfo
  | .listCodecs _ => some .enumerateCodecs
  | .makePlay _ _ _ => some .makePlay
  | .registerThread | .fail _ _ | .mend _ | .attempt _ _ | .answer _ _ _ | .invalidate _
  | .answersItself _ | .takeUnanswered => none

namespace Engine

variable {α : Type} {e e' : Engine}

/-! ### The record of commands -/

/-- Carrying out the command records nothing; that it was received is recorded already. -/
def KeepsLog (run : Engine → Except EngineStatus α × Engine) : Prop :=
  ∀ e, (run e).2.log = e.log

lemma keepsLog_atStage {allowed : EngineState → Bool}
    {run : Engine → Except EngineStatus α × Engine} (h : KeepsLog run) :
    KeepsLog (atStage allowed run) := by
  intro e
  unfold atStage
  split
  · exact h e
  · rfl

lemma keepsLog_holding {id : AccountId} {run : Engine → Except EngineStatus α × Engine}
    (h : KeepsLog run) : KeepsLog (holding id run) := by
  intro e
  unfold holding
  split
  · exact h e
  · rfl

/-- A command is recorded, whether it is carried out or refused. -/
lemma log_receive {c : EngineCommand} {run : Engine → Except EngineStatus α × Engine}
    (h : KeepsLog run) (e : Engine) : (receive c run e).2.log = e.log ++ [c] := by
  rcases receive_cases c run e with ⟨status, hrefused⟩ | hdone
  · rw [hrefused]
    rfl
  · rw [hdone]
    exact h (e.note c)

/-- An operation records its command, if it is one. -/
lemma log_apply (e : Engine) (op : EngineOp) :
    (e.apply op).2.log = e.log ++ op.command?.toList := by
  cases op with
  | create => exact log_receive (keepsLog_atStage fun _ => by rfl) e
  | init settings => exact log_receive (keepsLog_atStage fun _ => by rfl) e
  | start => exact log_receive (keepsLog_atStage fun _ => by rfl) e
  | destroy => exact log_receive (fun e => by split <;> rfl) e
  | nullSound => exact log_receive (keepsLog_atStage fun _ => by rfl) e
  | createTransport kind settings => exact log_receive (keepsLog_atStage fun _ => by rfl) e
  | addAccount settings makeDefault =>
    exact log_receive (keepsLog_atStage fun e => by dsimp only; split <;> rfl) e
  | setDefault id => exact log_receive (keepsLog_holding fun _ => by rfl) e
  | deleteAccount id => exact log_receive (fun e => by dsimp only; split <;> rfl) e
  | info id => exact log_receive (fun e => by split <;> rfl) e
  | listCodecs capacity => exact log_receive (keepsLog_atStage fun _ => by rfl) e
  | makePlay id target settings =>
    exact log_receive
      (keepsLog_atStage (keepsLog_holding fun e => by split <;> rfl)) e
  | registerThread =>
    cases hregister : e.registerThread with
    | error status => simp [apply, hregister, EngineOp.command?]
    | ok e' => simp [apply, hregister, EngineOp.command?, eq_of_registerThread hregister]
  | answer id status expires =>
    cases hanswer : e.answer id status expires with
    | none => simp [apply, hanswer, EngineOp.command?]
    | some x => simp [apply, hanswer, EngineOp.command?, log_answer hanswer]
  | fail request status | mend request | attempt id renew | invalidate id | answersItself on
  | takeUnanswered => exact (List.append_nil _).symm

lemma run_append (ops ops' : List EngineOp) (e : Engine) :
    (e.run (ops ++ ops')).2 = ((e.run ops).2.run ops').2 := by
  induction ops generalizing e with
  | nil => rfl
  | cons op ops ih => exact ih (e.apply op).2

/-- A run records its commands, in order. -/
lemma log_run (ops : List EngineOp) (e : Engine) :
    (e.run ops).2.log = e.log ++ ops.filterMap EngineOp.command? := by
  induction ops generalizing e with
  | nil => simp [run]
  | cons op ops ih =>
    have hrest := ih (e.apply op).2
    rw [log_apply] at hrest
    simp only [run, hrest, List.append_assoc]
    cases h : op.command? <;> simp [h]

/-! ### What is kept along runs -/

/-- What does not depend on the record and is kept by all moves, is kept along runs. -/
lemma run_kept {P : Engine → Prop} (hlog : ∀ e log, P e → P { e with log })
    (hmove : ∀ {e e' issue?}, P e → Move e issue? e' → P e') (h : P e) (ops : List EngineOp) :
    P (e.run ops).2 := by
  induction ops generalizing e with
  | nil => exact h
  | cons op ops ih =>
    obtain ⟨log, happly⟩ := move_apply e op
    exact ih (hmove (hlog e log h) happly)

/-- Moves and records leave the table of codecs alone. -/
lemma codecs_run (e : Engine) (ops : List EngineOp) : (e.run ops).2.codecs = e.codecs := by
  refine run_kept (P := fun e' => e'.codecs = e.codecs) (fun _ _ h => h) (fun h hmove => ?_) rfl ops
  cases hmove <;> exact h

lemma Sound.run (h : e.Sound) (ops : List EngineOp) : (e.run ops).2.Sound :=
  run_kept
    (fun _ _ h => ⟨h.stage, h.served, h.default_held, h.numbered, h.ordered, h.presence⟩)
    (fun h => h.move) h ops

/-- An engine is sound if it was made and has carried out operations since. -/
lemma sound_of_run (h : ∃ codecs ops, e = (run ops { codecs }).2) : e.Sound := by
  obtain ⟨codecs, ops, rfl⟩ := h
  exact (sound_new codecs).run ops

/-! ### Accounts that are lost -/

/-- The engine has given out the number of the account. -/
def Issued (id : AccountId) (e : Engine) : Prop := ∃ n < e.nextAccount, id = (n : AccountId)

/-- The engine has given out the number of the account, and does not hold it any more. -/
structure Lost (id : AccountId) (e : Engine) : Prop where
  issued : e.Issued id
  not_held : e.holds id = false

variable {id : AccountId}

lemma Lost.not_holds (h : Lost id e) : ¬ e.holds id = true := by
  rw [h.not_held]
  exact Bool.false_ne_true

lemma Sound.issued (h : e.Sound) (hholds : e.holds id = true) : e.Issued id := by
  obtain ⟨a, ha, rfl⟩ := holds_iff.1 hholds
  exact h.numbered a ha

lemma Issued.move {issue? : Option Issue} (h : e.Issued id) (hmove : Move e issue? e') :
    e'.Issued id := by
  obtain ⟨n, hn, rfl⟩ := h
  cases hmove with
  | accountAdded hserves settings makeDefault unanswered => exact ⟨n, Nat.lt_succ_of_lt hn, rfl⟩
  | _ => exact ⟨n, hn, rfl⟩

/-- The number of an account that an operation gives out. -/
lemma Move.issued (h : Move e (some (.account id)) e') : e'.Issued id := by
  cases h with
  | accountAdded hserves settings makeDefault unanswered =>
    exact ⟨e.nextAccount, Nat.lt_succ_self _, rfl⟩

lemma Issued.run (h : e.Issued id) (ops : List EngineOp) : (e.run ops).2.Issued id :=
  run_kept (fun _ _ h => h) (fun h => h.move) h ops

/-- Nothing brings a lost account back: the accounts that are added have other numbers. -/
lemma Lost.move {issue? : Option Issue} (h : Lost id e) (hmove : Move e issue? e') :
    Lost id e' := by
  refine ⟨h.issued.move hmove, ?_⟩
  have hnone : ∀ a ∈ e.accounts, a.id ≠ id := fun a ha heq =>
    h.not_holds (holds_iff.2 ⟨a, ha, heq⟩)
  rw [← Bool.not_eq_true, holds_iff]
  rintro ⟨a, ha, heq⟩
  cases hmove with
  | aside log failure? threads answersItself unanswered => exact hnone a ha heq
  | created hstate | initialised hstate | started hstate => exact hnone a ha heq
  | destroyed => exact absurd ha (by simp)
  | transportCreated hserves kind port => exact hnone a ha heq
  | accountAdded hserves settings makeDefault unanswered =>
    rcases List.mem_append.1 ha with ha | ha
    · exact hnone a ha heq
    · obtain rfl := List.mem_singleton.1 ha
      obtain ⟨n, hn, rfl⟩ := h.issued
      have hnext : (e.nextAccount : Int) = (n : Int) := heq
      omega
  | defaultSet hholds => exact hnone a ha heq
  | accountDropped id' => exact hnone a (List.mem_filter.1 ha).1 heq
  | registrarAnswered id' status expires =>
    obtain ⟨b, hb, rfl⟩ := List.mem_map.1 ha
    exact hnone b hb (by simpa using heq)
  | called settings hrunning hholds htarget => exact hnone a ha heq

/-- An account that the engine is made to drop is not held any more. -/
lemma holds_without (id : AccountId) (e : Engine) : (e.without id).holds id = false := by
  rw [← Bool.not_eq_true, holds_iff]
  rintro ⟨a, ha, heq⟩
  simpa [heq] using (List.mem_filter.1 ha).2

lemma Lost.run (h : Lost id e) (ops : List EngineOp) : Lost id (e.run ops).2 :=
  run_kept (fun _ _ h => ⟨h.issued, h.not_held⟩) (fun h => h.move) h ops

end Engine
end SipStills
