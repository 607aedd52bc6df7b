/-
# Threads that come and go

Threads make sure that they are registered, are released, and ask whether they are registered, in
any order, while the engine registers threads at some times and refuses to at others (`GateOp`).
Each of these operations holds the table to its end, so that those of different threads come one
after the other.

The books are kept for each thread by itself: its registrations are its releases, those that find
it in the table, and one more as long as it is in the table (`balance_run`).  Since nothing but a
registration moves the counter of the engine, and nothing but these two moves the table, the same
holds of the counter and the size of the table (`size_run`).
-/
import Mathlib.Data.List.Induction
import SipStills.ThreadGate
import SipStills.Proofs.Engine.Moves

namespace SipStills

namespace ThreadGate

variable {g : ThreadGate} {t : ThreadId}

lemma release_eq_self (h : g.isRegistered t = false) : g.release t = g := by
  have hne : ∀ u ∈ g.registered, (u != t) = true := by
    intro u hu
    refine bne_iff_ne.2 fun heq => ?_
    have hmem : g.isRegistered t = true := heq ▸ List.elem_eq_true_of_mem hu
    exact absurd (h.symm.trans hmem) (by simp)
  rw [release, List.filter_eq_self.2 hne]

/-- A thread that was not registered before leaves nothing behind. -/
lemma release_ensure (h : g.isRegistered t = false) (e : Engine) :
    (g.ensure t e).1.release t = g := by
  have hrelease := release_eq_self h
  simp only [ensure, h, Bool.false_eq_true, if_false]
  cases e.registerThread with
  | error status => exact hrelease
  | ok e' =>
    have hhead : (⟨t :: g.registered⟩ : ThreadGate).release t = g.release t := by
      simp [release]
    exact hhead.trans hrelease

end ThreadGate

/-- What can happen to a gate and to its engine. -/
inductive GateOp where
  /-- A thread makes sure that it is registered. -/
  | ensure (t : ThreadId)
  /-- A thread is forgotten. -/
  | release (t : ThreadId)
  /-- A thread asks whether it is registered. -/
  | ask (t : ThreadId)
  /-- The engine registers no threads from now on. -/
  | fail (status : EngineStatus)
  /-- The engine registers threads again. -/
  | mend
deriving DecidableEq

/-- A gate and the engine that it registers threads with. -/
structure GatedEngine where
  /-- The gate. -/
  gate : ThreadGate := {}
  /-- The engine. -/
  engine : Engine

namespace GatedEngine

/-- The engine registers threads at present. -/
def works (s : GatedEngine) : Bool := (s.engine.failure? .registerThread).isNone

/-- One operation.  Asking changes nothing. -/
def step (s : GatedEngine) : GateOp → GatedEngine
  | .ensure t =>
    let r := s.gate.ensure t s.engine
    ⟨r.1, r.2⟩
  | .release t => { s with gate := s.gate.release t }
  | .ask _ => s
  | .fail status => { s with engine := s.engine.fail .registerThread status }
  | .mend => { s with engine := s.engine.mend .registerThread }

/-- Operations one after the other. -/
def run (s : GatedEngine) (ops : List GateOp) : GatedEngine := ops.foldl step s

/-- The operations of a run, each with the gate and the engine as they were just before. -/
def history (s : GatedEngine) : List GateOp → List (GatedEngine × GateOp)
  | [] => []
  | op :: ops => (s, op) :: history (s.step op) ops

/-- The thread that an operation registers: one that makes sure, is not in the table, and meets an
engine that registers threads. -/
def registered? : GatedEngine × GateOp → Option ThreadId
  | (s, .ensure t) => if !s.gate.isRegistered t && s.works then some t else none
  | _ => none

/-- The thread that an operation removes: one that is released and is in the table. -/
def removed? : GatedEngine × GateOp → Option ThreadId
  | (s, .release t) => if s.gate.isRegistered t then some t else none
  | _ => none

/-- The thread has made sure at a time when `P` was so, and was not released since. -/
def EnsuredSince (s : GatedEngine) (ops : List GateOp) (t : ThreadId) (P : GatedEngine → Prop) :
    Prop :=
  ∃ before after, ops = before ++ .ensure t :: after ∧ P (s.run before) ∧ .release t ∉ after

variable {s : GatedEngine} {t : ThreadId}

@[simp] lemma run_nil (s : GatedEngine) : s.run [] = s := rfl

@[simp] lemma run_cons (s : GatedEngine) (op : GateOp) (ops : List GateOp) :
    s.run (op :: ops) = (s.step op).run ops := rfl

@[simp] lemma run_append (s : GatedEngine) (ops ops' : List GateOp) :
    s.run (ops ++ ops') = (s.run ops).run ops' := List.foldl_append

/-! ### One operation -/

lemma step_ensure (s : GatedEngine) (t : ThreadId) :
    s.step (.ensure t)
      = if !s.gate.isRegistered t && s.works then
          ⟨⟨t :: s.gate.registered⟩, { s.engine with threads := s.engine.threads + 1 }⟩
        else s := by
  cases hin : s.gate.isRegistered t <;>
    cases hfailure : s.engine.failure? .registerThread <;>
    simp [step, ThreadGate.ensure, works, Engine.registerThread, hin, hfailure]

@[simp] lemma isRegistered_ensure (s : GatedEngine) (t u : ThreadId) :
    (s.step (.ensure u)).gate.isRegistered t
      = (s.gate.isRegistered t || (decide (t = u) && s.works)) := by
  rw [step_ensure]
  by_cases htu : t = u
  · subst htu
    cases hin : s.gate.isRegistered t <;> cases hworks : s.works <;>
      simp_all [ThreadGate.isRegistered]
  · split <;> simp [ThreadGate.isRegistered, htu]

@[simp] lemma isRegistered_release (s : GatedEngine) (t u : ThreadId) :
    (s.step (.release u)).gate.isRegistered t
      = (s.gate.isRegistered t && decide (t ≠ u)) := by
  by_cases htu : t = u <;> simp [step, ThreadGate.release, ThreadGate.isRegistered, htu]

/-- The engine counts a thread that an operation registers, and nothing else. -/
lemma threads_step (s : GatedEngine) (op : GateOp) :
    (s.step op).engine.threads
      = s.engine.threads + if (registered? (s, op)).isSome then 1 else 0 := by
  cases op with
  | ensure t =>
    rw [step_ensure, registered?]
    split <;> simp
  | release t | ask t | fail status | mend => rfl

/-- One operation keeps the balance of a thread. -/
lemma balance_step (s : GatedEngine) (op : GateOp) (t : ThreadId) :
    (removed? (s, op)).toList.count t + ((s.step op).gate.isRegistered t).toNat
      = (registered? (s, op)).toList.count t + (s.gate.isRegistered t).toNat := by
  cases op with
  | ensure u =>
    by_cases htu : t = u
    · subst htu
      cases hin : s.gate.isRegistered t <;> cases hworks : s.works <;>
        simp [registered?, removed?, hin, hworks]
    · have hut : u ≠ t := fun h => htu h.symm
      simp only [isRegistered_ensure, htu, removed?, registered?]
      split <;> simp [hut]
  | release u =>
    by_cases htu : t = u
    · subst htu
      cases hin : s.gate.isRegistered t <;> simp [registered?, removed?, hin]
    · have hut : u ≠ t := fun h => htu h.symm
      simp only [isRegistered_release, removed?, registered?]
      split <;> simp [htu, hut]
  | ask u | fail status | mend => rfl

/-- A thread is in the table once. -/
lemma nodup_step (h : s.gate.registered.Nodup) (op : GateOp) :
    (s.step op).gate.registered.Nodup := by
  cases op with
  | ensure t =>
    rw [step_ensure]
    split
    · rename_i hnew
      have hnot : t ∉ s.gate.registered := by
        simp only [ThreadGate.isRegistered, Bool.and_eq_true, Bool.not_eq_true'] at hnew
        simpa using hnew.1
      exact List.nodup_cons.2 ⟨hnot, h⟩
    · exact h
  | release t => exact h.filter _
  | ask t | fail status | mend => exact h

/-- One operation keeps the balance of the table. -/
lemma size_step (h : s.gate.registered.Nodup) (op : GateOp) :
    (removed? (s, op)).toList.length + (s.step op).gate.size
      = (registered? (s, op)).toList.length + s.gate.size := by
  cases op with
  | ensure t =>
    rw [step_ensure, registered?]
    split <;> simp [removed?, ThreadGate.size, Nat.add_comm]
  | release t =>
    have hsize : (s.step (.release t)).gate.size = (s.gate.registered.erase t).length := by
      rw [h.erase_eq_filter]
      rfl
    simp only [hsize, removed?, registered?]
    split
    · rename_i hin
      have hmem : t ∈ s.gate.registered := by simpa [ThreadGate.isRegistered] using hin
      have hpos := List.length_pos_of_mem hmem
      simp only [List.length_erase_of_mem hmem, Option.toList_some, Option.toList_none,
        List.length_singleton, List.length_nil, ThreadGate.size]
      omega
    · rename_i hout
      have hmem : t ∉ s.gate.registered := by simpa [ThreadGate.isRegistered] using hout
      rw [List.erase_of_not_mem hmem]
      rfl
  | ask t | fail status | mend => rfl

/-! ### Runs -/

/-- The engine counts the threads that are registered. -/
lemma threads_run (s : GatedEngine) (ops : List GateOp) :
    (s.run ops).engine.threads
      = s.engine.threads + ((s.history ops).filterMap registered?).length := by
  induction ops generalizing s with
  | nil => rfl
  | cons op ops ih =>
    rw [run_cons, ih, threads_step, history, List.filterMap_cons]
    cases registered? (s, op) <;> simp [Nat.add_assoc, Nat.add_comm 1]

lemma nodup_run (h : s.gate.registered.Nodup) (ops : List GateOp) :
    (s.run ops).gate.registered.Nodup := by
  induction ops generalizing s with
  | nil => exact h
  | cons op ops ih => exact ih (nodup_step h op)

/-- The table grows by the threads that are registered and shrinks by those that are removed. -/
lemma size_run (h : s.gate.registered.Nodup) (ops : List GateOp) :
    ((s.history ops).filterMap removed?).length + (s.run ops).gate.size
      = ((s.history ops).filterMap registered?).length + s.gate.size := by
  induction ops generalizing s with
  | nil => rfl
  | cons op ops ih =>
    have hstep := size_step h op
    have hrest := ih (nodup_step h op)
    rw [run_cons, history, List.filterMap_cons, List.filterMap_cons]
    cases hremoved : removed? (s, op) <;> cases hregistered : registered? (s, op) <;>
      simp [hremoved, hregistered] at hstep ⊢ <;> omega

/-- A thread is registered as often as it is removed, and once more if it has come into the table
and is still there. -/
lemma balance_run (s : GatedEngine) (ops : List GateOp) (t : ThreadId) :
    ((s.history ops).filterMap removed?).count t + ((s.run ops).gate.isRegistered t).toNat
      = ((s.history ops).filterMap registered?).count t + (s.gate.isRegistered t).toNat := by
  induction ops generalizing s with
  | nil => rfl
  | cons op ops ih =>
    have hstep := balance_step s op t
    have hrest := ih (s.step op)
    rw [run_cons, history, List.filterMap_cons, List.filterMap_cons]
    cases hremoved : removed? (s, op) <;> cases hregistered : registered? (s, op) <;>
      simp [hremoved, hregistered, List.count_cons] at hstep ⊢ <;> omega

/-- A thread that is not released is not removed. -/
lemma count_removed (s : GatedEngine) {ops : List GateOp} (h : .release t ∉ ops) :
    ((s.history ops).filterMap removed?).count t = 0 := by
  induction ops generalizing s with
  | nil => rfl
  | cons op ops ih =>
    have hhead : op ≠ .release t := fun heq => h (heq ▸ List.mem_cons_self)
    have hrest := ih (s.step op) fun hmem => h (List.mem_cons_of_mem _ hmem)
    rw [history, List.filterMap_cons]
    split
    · exact hrest
    · rename_i u hremoved
      have hne : u ≠ t := by
        rintro rfl
        unfold removed? at hremoved
        split at hremoved
        · rename_i hop
          split at hremoved
          · exact hhead (Option.some.inj hremoved ▸ (Prod.mk.inj hop).2)
          · exact absurd hremoved (by simp)
        · exact absurd hremoved (by simp)
      rw [List.count_cons_of_ne hne, hrest]

/-- A thread stays in the table until it is released. -/
lemma isRegistered_run (hin : s.gate.isRegistered t = true) {ops : List GateOp}
    (h : .release t ∉ ops) : (s.run ops).gate.isRegistered t = true := by
  have hbalance := balance_run s ops t
  rw [count_removed s h, hin] at hbalance
  cases hout : (s.run ops).gate.isRegistered t with
  | true => rfl
  | false =>
    rw [hout] at hbalance
    simp at hbalance

/-- A thread stays out of the table until it makes sure. -/
lemma not_isRegistered_run (hout : s.gate.isRegistered t = false) {ops : List GateOp}
    (h : .ensure t ∉ ops) : (s.run ops).gate.isRegistered t = false := by
  induction ops generalizing s with
  | nil => exact hout
  | cons op ops ih =>
    refine ih ?_ fun hmem => h (List.mem_cons_of_mem _ hmem)
    cases op with
    | ensure u =>
      have htu : t ≠ u := fun heq => h (heq ▸ List.mem_cons_self)
      simp [hout, htu]
    | release u => simp [hout]
    | ask u | fail status | mend => exact hout

/-- A thread is in the table if it made sure while the engine registered threads and was not
released since. -/
lemma isRegistered_run_iff (e : Engine) (ops : List GateOp) (t : ThreadId) :
    (run { engine := e } ops).gate.isRegistered t = true
      ↔ EnsuredSince { engine := e } ops t fun s => s.works = true := by
  constructor
  · intro hin
    induction ops using List.reverseRecOn with
    | nil => exact absurd hin (by simp [ThreadGate.isRegistered])
    | append_singleton ops op ih =>
      have hkept (hbefore : (run { engine := e } ops).gate.isRegistered t = true)
          (hop : op ≠ .release t) :
          EnsuredSince { engine := e } (ops ++ [op]) t fun s => s.works = true := by
        obtain ⟨before, after, rfl, hworks, hafter⟩ := ih hbefore
        refine ⟨before, after ++ [op], by simp, hworks, ?_⟩
        simpa [hafter] using hop.symm
      rw [run_append] at hin
      cases op with
      | ensure u =>
        have hcases : (run { engine := e } ops).gate.isRegistered t = true
            ∨ t = u ∧ (run { engine := e } ops).works = true := by
          simpa using hin
        rcases hcases with hbefore | ⟨rfl, hworks⟩
        · exact hkept hbefore (by simp)
        · exact ⟨ops, [], rfl, hworks, by simp⟩
      | release u =>
        have hboth : (run { engine := e } ops).gate.isRegistered t = true ∧ t ≠ u := by
          simpa using hin
        exact hkept hboth.1 fun heq => hboth.2 (GateOp.release.inj heq).symm
      | ask u | fail status | mend => exact hkept hin (by simp)
  · rintro ⟨before, after, rfl, hworks, hafter⟩
    rw [run_append, run_cons]
    exact isRegistered_run (by simp [hworks]) hafter

/-- As often as threads come and go, the books agree.  A thread is in the table if and only if it
made sure while the engine registered threads, or when it was in the table already, and was not
released since.  The engine's counter grows by one if an operation registers a thread and not
otherwise, so that it is the size of the table and the number of the threads that were removed.  As
long as a thread is not released it is registered at most once; and if it could not be registered,
then the next time that it makes sure it is, if the engine registers threads at that time. -/
theorem thread_books_agree (e : Engine) (ops : List GateOp) :
    let s := run { engine := e } ops
    let acts := history { engine := e } ops
    (∀ t, (s.gate.isRegistered t = true
        ↔ EnsuredSince { engine := e } ops t fun s => s.works = true)
      ∧ (s.gate.isRegistered t = true
        ↔ EnsuredSince { engine := e } ops t fun s =>
            s.works = true ∨ s.gate.isRegistered t = true))
    ∧ (∀ op, (s.step op).engine.threads
        = s.engine.threads + if (registered? (s, op)).isSome then 1 else 0)
    ∧ s.gate.registered.Nodup
    ∧ s.engine.threads = e.threads + s.gate.size + (acts.filterMap removed?).length
    ∧ (∀ t more, .release t ∉ more →
        ((s.history more).filterMap registered?).count t ≤ 1)
    ∧ ∀ t more, (s.step (.ensure t)).gate.isRegistered t = false → .ensure t ∉ more →
        let s' := (s.step (.ensure t)).run more
        registered? (s', .ensure t) = if s'.works then some t else none := by
  intro s acts
  have hnew : (GatedEngine.mk {} e).gate.registered.Nodup := List.nodup_nil
  refine ⟨fun t => ⟨isRegistered_run_iff e ops t, fun hin => ?_, ?_⟩, threads_step s,
    nodup_run hnew ops, ?_, ?_, ?_⟩
  · obtain ⟨before, after, hops, hworks, hafter⟩ := (isRegistered_run_iff e ops t).1 hin
    exact ⟨before, after, hops, .inl hworks, hafter⟩
  · rintro ⟨before, after, rfl, hbefore, hafter⟩
    have hensured : ((run { engine := e } before).step (.ensure t)).gate.isRegistered t = true := by
      rcases hbefore with hworks | hin
      · simp [hworks]
      · simp [hin]
    have hs : s = ((run { engine := e } before).step (.ensure t)).run after := run_append _ _ _
    rw [hs]
    exact isRegistered_run hensured hafter
  · have hthreads : s.engine.threads = e.threads + (acts.filterMap registered?).length :=
      threads_run { engine := e } ops
    have hsize : (acts.filterMap removed?).length + s.gate.size
        = (acts.filterMap registered?).length + 0 := size_run hnew ops
    omega
  · intro t more hmore
    have hbalance := balance_run s more t
    rw [count_removed s hmore] at hbalance
    have hbool := Bool.toNat_le ((s.run more).gate.isRegistered t)
    omega
  · intro t more hfailed hmore s'
    have hout : s'.gate.isRegistered t = false := not_isRegistered_run hfailed hmore
    simp [registered?, hout]

/-- Two threads, one of which is released and comes back, while the engine refuses to register
threads for some time. -/
def comings : List GateOp :=
  [.ensure 1, .fail .invalidOperation, .ensure 2, .ensure 1, .release 1, .ensure 1, .mend, .ask 1,
    .ensure 1, .ensure 2, .release 3]

theorem thread_books_agree_refused :
    let s := run { engine := {} } comings
    s.engine.threads = 3 ∧ s.gate.registered = [2, 1]
    ∧ EnsuredSince { engine := {} } comings 2 (fun s => s.works = true)
    ∧ .release 2 ∉ comings
    ∧ ((history { engine := {} } comings).filterMap registered?).count 2 ≤ 1
    ∧ ((run { engine := {} } (comings.take 2)).step (.ensure 2)).gate.isRegistered 2 = false
    ∧ .ensure 2 ∉ (comings.drop 3).take 6
    ∧ registered? (run { engine := {} } (comings.take 9), .ensure 2) = some 2 := by
  obtain ⟨htable, -⟩ := thread_books_agree {} comings
  obtain ⟨-, -, -, -, honce, -⟩ := thread_books_agree {} []
  obtain ⟨-, -, -, -, -, hretried⟩ := thread_books_agree {} (comings.take 2)
  have hrelease : .release 2 ∉ comings := by decide
  have hfailed :
      ((run { engine := {} } (comings.take 2)).step (.ensure 2)).gate.isRegistered 2 = false := by
    decide
  have hmore : .ensure 2 ∉ (comings.drop 3).take 6 := by decide
  exact ⟨rfl, rfl, (htable 2).1.1 rfl, hrelease, honce 2 comings hrelease, hfailed, hmore,
    hretried 2 ((comings.drop 3).take 6) hfailed hmore⟩

end GatedEngine
end SipStills
