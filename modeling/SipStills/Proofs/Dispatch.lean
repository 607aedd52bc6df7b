/-
# The consumer is fixed once

`Dispatch.run` takes a dispatch through any operations.  A consumer that breaks off is left by the
dispatch that called it, so that the still is handed over and not counted (`Dispatch.handOver`).

What comes of a run that begins with a fresh dispatch depends on the first operation that is no
dispatch of a still (`Dispatch.fixedOnce_run`).  If it sets a consumer, that consumer gets
everything from then on and every further attempt to set one is refused (`Dispatch.FixedBy`).
Otherwise no attempt succeeds and everything is dropped (`Dispatch.NeverFixed`).
-/
import Mathlib.Tactic.Lemma
import SipStills.Dispatch

namespace SipStills

variable {γ : Type}

/-- What can be done with a dispatch. -/
inductive DispatchOp (γ : Type) where
  /-- A consumer is to be set. -/
  | set (consumer : γ)
  /-- The consumer is fixed. -/
  | activate
  /-- A still is dispatched; its consumer, if there is one, returns or breaks off. -/
  | dispatch (callee : String) (data : Bytes) (returns : Bool)

namespace DispatchOp

/-- The operation dispatches a still. -/
def isDispatch : DispatchOp γ → Bool
  | .dispatch _ _ _ => true
  | .set _ | .activate => false

/-- The operation dispatches a still to a consumer that does not break off. -/
def isReturned : DispatchOp γ → Bool
  | .dispatch _ _ returns => returns
  | .set _ | .activate => false

/-- The operation fixes the consumer. -/
def isActivate : DispatchOp γ → Bool
  | .activate => true
  | .set _ | .dispatch _ _ _ => false

/-- The operation is an attempt to set a consumer. -/
def isSet : DispatchOp γ → Bool
  | .set _ => true
  | .activate | .dispatch _ _ _ => false

/-- The still that is dispatched, on its way to a consumer. -/
def toward? (c : γ) : DispatchOp γ → Option (Delivery γ)
  | .dispatch callee data _ => some ⟨c, callee, data⟩
  | .set _ | .activate => none

/-- Why attempts to set a consumer are refused while there is one. -/
def refusals : Bool → List (DispatchOp γ) → List (Option Fault)
  | _, [] => []
  | active, .set _ :: ops =>
    some (if active then .pipelineActive else .consumerAlreadySet) :: refusals active ops
  | _, .activate :: ops => refusals true ops
  | active, .dispatch _ _ _ :: ops => refusals active ops

end DispatchOp

/-- What has come of operations. -/
structure DispatchRun (γ : Type) where
  /-- Why attempts to set a consumer were refused, for those that were. -/
  answers : List (Option Fault)
  /-- The stills that consumers were given. -/
  handed : List (Delivery γ)
  /-- The dispatch at the end. -/
  dispatch : Dispatch γ

namespace Dispatch

open DispatchOp

/-- Dispatches a still to a consumer that may break off.  It is not counted then. -/
def handOver (callee : String) (data : Bytes) (returns : Bool) (d : Dispatch γ) :
    Option (Delivery γ) × Dispatch γ :=
  match d.consumer, returns with
  | some consumer, false => (some { consumer, callee, data }, d)
  | _, _ => d.offer callee data

/-- One operation. -/
def apply (d : Dispatch γ) : DispatchOp γ → DispatchRun γ
  | .set c =>
    match d.set c with
    | .error fault => ⟨[some fault], [], d⟩
    | .ok d => ⟨[none], [], d⟩
  | .activate => ⟨[], [], d.activate⟩
  | .dispatch callee data returns =>
    let r := d.handOver callee data returns
    ⟨[], r.1.toList, r.2⟩

/-- Operations one after the other. -/
def run : List (DispatchOp γ) → Dispatch γ → DispatchRun γ
  | [], d => ⟨[], [], d⟩
  | op :: ops, d =>
    let first := d.apply op
    let rest := run ops first.dispatch
    ⟨first.answers ++ rest.answers, first.handed ++ rest.handed, rest.dispatch⟩

variable {d : Dispatch γ}

lemma run_append (ops ops' : List (DispatchOp γ)) (d : Dispatch γ) :
    run (ops ++ ops') d =
      ⟨(run ops d).answers ++ (run ops' (run ops d).dispatch).answers,
        (run ops d).handed ++ (run ops' (run ops d).dispatch).handed,
        (run ops' (run ops d).dispatch).dispatch⟩ := by
  induction ops generalizing d with
  | nil => rfl
  | cons op ops ih => simp only [List.cons_append, run, ih, List.append_assoc]

/-- It makes no difference to what comes after it whether a still was counted. -/
lemma run_countDelivered (ops : List (DispatchOp γ)) (d : Dispatch γ) :
    run ops d.countDelivered
      = { run ops d with dispatch := (run ops d).dispatch.countDelivered } := by
  induction ops generalizing d with
  | nil => rfl
  | cons op ops ih =>
    have hop : d.countDelivered.apply op
        = { d.apply op with dispatch := (d.apply op).dispatch.countDelivered } := by
      obtain ⟨consumer, active, delivered, discarded⟩ := d
      cases op with
      | activate => rfl
      | set c => cases active <;> cases consumer <;> rfl
      | dispatch callee data returns => cases consumer <;> cases returns <;> rfl
    simp only [run, hop, ih]

/-! ### The four states -/

/-- While there is no consumer, stills are dropped. -/
lemma run_of_forall_isDispatch (h : d.consumer = none) {ops : List (DispatchOp γ)}
    (hops : ∀ op ∈ ops, op.isDispatch = true) :
    run ops d = ⟨[], [], { d with discarded := d.discarded + ops.length }⟩ := by
  induction ops generalizing d with
  | nil => rfl
  | cons op ops ih =>
    have hop := hops op (by simp)
    cases op with
    | set c | activate => exact absurd hop (by simp [isDispatch])
    | dispatch callee data returns =>
      have hdropped : d.apply (.dispatch callee data returns) = ⟨[], [], d.countDiscarded⟩ := by
        simp [apply, handOver, offer, h]
      have hrest := ih (d := d.countDiscarded) h fun op' hop' => hops op' (by simp [hop'])
      rw [run, hdropped, hrest]
      simp [countDiscarded, Nat.add_assoc, Nat.add_comm 1]

/-- Once there is a consumer it gets everything, and attempts to set one are refused. -/
lemma run_of_consumer {c : γ} (h : d.consumer = some c) (ops : List (DispatchOp γ)) :
    run ops d =
      ⟨refusals d.active ops, ops.filterMap (toward? c),
        { d with
          active := d.active || ops.any isActivate
          delivered := d.delivered + ops.countP isReturned }⟩ := by
  induction ops generalizing d with
  | nil => simp [run, refusals]
  | cons op ops ih =>
    cases op with
    | set c' =>
      have hrefused : d.apply (.set c')
          = ⟨[some (if d.active then .pipelineActive else .consumerAlreadySet)], [], d⟩ := by
        cases hactive : d.active <;> simp [apply, set, h, hactive]
      rw [run, hrefused, ih h]
      simp [refusals, toward?, isActivate, isReturned, List.filterMap_cons]
    | activate =>
      rw [run, apply, ih (d := d.activate) h]
      simp [activate, refusals, toward?, isActivate, isReturned, List.filterMap_cons]
    | dispatch callee data returns =>
      cases returns with
      | true =>
        have hgiven : d.apply (.dispatch callee data true)
            = ⟨[], [⟨c, callee, data⟩], d.countDelivered⟩ := by
          simp [apply, handOver, offer, h]
        rw [run, hgiven, ih (d := d.countDelivered) h]
        simp [countDelivered, refusals, toward?, isActivate, isReturned, List.countP_cons,
          Nat.add_assoc, Nat.add_comm 1]
      | false =>
        have hgiven : d.apply (.dispatch callee data false)
            = ⟨[], [⟨c, callee, data⟩], d⟩ := by
          simp [apply, handOver, h]
        rw [run, hgiven, ih h]
        simp [refusals, toward?, isActivate, isReturned]

/-- Once it is fixed that there is no consumer, none is set and everything is dropped. -/
lemma run_of_active (h : d.consumer = none) (hactive : d.active = true)
    (ops : List (DispatchOp γ)) :
    run ops d =
      ⟨(ops.filter isSet).map fun _ => some .pipelineActive, [],
        { d with discarded := d.discarded + ops.countP isDispatch }⟩ := by
  induction ops generalizing d with
  | nil => rfl
  | cons op ops ih =>
    cases op with
    | set c =>
      have hrefused : d.apply (.set c) = ⟨[some .pipelineActive], [], d⟩ := by
        simp [apply, set, hactive]
      rw [run, hrefused, ih h hactive]
      simp [isSet, isDispatch, List.filter_cons]
    | activate =>
      have hkept : d.apply .activate = ⟨[], [], d⟩ := by
        simp [apply, activate, ← hactive]
      rw [run, hkept, ih h hactive]
      simp [isSet, isDispatch]
    | dispatch callee data returns =>
      have hdropped : d.apply (.dispatch callee data returns) = ⟨[], [], d.countDiscarded⟩ := by
        simp [apply, handOver, offer, h]
      rw [run, hdropped, ih (d := d.countDiscarded) h hactive]
      simp [isSet, isDispatch, countDiscarded, List.countP_cons, Nat.add_assoc, Nat.add_comm 1]

/-! ### Whole runs -/

/-- What has come of a run in which a consumer was set between two parts. -/
structure FixedBy (early : List (DispatchOp γ)) (c : γ) (late : List (DispatchOp γ))
    (r : DispatchRun γ) : Prop where
  /-- There was no attempt to set another one before, and none was ruled out. -/
  first : ∀ op ∈ early, op.isDispatch = true
  /-- It is the only one that was set. -/
  answers : r.answers = none :: refusals false late
  consumer : r.dispatch.consumer = some c
  active : r.dispatch.active = late.any isActivate
  /-- It was given every still from then on, in order, and nobody else was given any. -/
  handed : r.handed = late.filterMap (toward? c)
  delivered : r.dispatch.delivered = late.countP isReturned
  discarded : r.dispatch.discarded = early.length

/-- What has come of a run in which no consumer was set. -/
structure NeverFixed (ops : List (DispatchOp γ)) (r : DispatchRun γ) : Prop where
  /-- All attempts to set one came too late. -/
  late : ∀ before c after, ops = before ++ .set c :: after → before.any isActivate = true
  answers : r.answers = (ops.filter isSet).map fun _ => some .pipelineActive
  consumer : r.dispatch.consumer = none
  active : r.dispatch.active = ops.any isActivate
  handed : r.handed = []
  delivered : r.dispatch.delivered = 0
  discarded : r.dispatch.discarded = ops.countP isDispatch

/-- At most one consumer is set in a run, and before the first activation; it gets what is
dispatched afterwards, and everything else is dropped. -/
def FixedOnce (ops : List (DispatchOp γ)) (r : DispatchRun γ) : Prop :=
  (∃ early c late, ops = early ++ .set c :: late ∧ FixedBy early c late r) ∨ NeverFixed ops r

lemma fixedBy_run {early : List (DispatchOp γ)} (hearly : ∀ op ∈ early, op.isDispatch = true)
    (c : γ) (late : List (DispatchOp γ)) :
    FixedBy early c late (run (early ++ .set c :: late) {}) := by
  have hset : ({ discarded := early.length } : Dispatch γ).apply (.set c)
      = ⟨[none], [], { consumer := some c, discarded := early.length }⟩ := rfl
  have hrun : run (early ++ .set c :: late) {} =
      ⟨none :: refusals false late, late.filterMap (toward? c),
        { consumer := some c, active := late.any isActivate
          delivered := late.countP isReturned, discarded := early.length }⟩ := by
    rw [run_append, run_of_forall_isDispatch rfl hearly]
    simp only [run, hset, Nat.zero_add, run_of_consumer (d := ⟨some c, false, 0, early.length⟩) rfl]
    simp
  rw [hrun]
  exact ⟨hearly, rfl, rfl, rfl, rfl, rfl, rfl⟩

lemma filter_isSet_eq_nil {ops : List (DispatchOp γ)}
    (hops : ∀ op ∈ ops, op.isDispatch = true) : ops.filter isSet = [] := by
  refine List.filter_eq_nil_iff.2 fun op hop => ?_
  have hdispatch := hops op hop
  cases op <;> simp_all [isDispatch, isSet]

lemma any_isActivate_eq_false {ops : List (DispatchOp γ)}
    (hops : ∀ op ∈ ops, op.isDispatch = true) : ops.any isActivate = false := by
  refine List.any_eq_false.2 fun op hop => ?_
  have hdispatch := hops op hop
  cases op <;> simp_all [isDispatch, isActivate]

/-- What is so while nothing was done but to dispatch stills. -/
lemma neverFixed_of_forall_isDispatch {ops : List (DispatchOp γ)}
    (hops : ∀ op ∈ ops, op.isDispatch = true) : NeverFixed ops (run ops {}) := by
  rw [run_of_forall_isDispatch rfl hops]
  refine ⟨?_, ?_, rfl, (any_isActivate_eq_false hops).symm, rfl, rfl, ?_⟩
  · rintro before c after rfl
    exact absurd (hops (.set c) (by simp)) (by simp [isDispatch])
  · rw [filter_isSet_eq_nil hops]
    rfl
  · simp [List.countP_eq_length.2 hops]

/-- What is so if the consumer was fixed before one was set. -/
lemma neverFixed_of_activate {early : List (DispatchOp γ)}
    (hearly : ∀ op ∈ early, op.isDispatch = true) (late : List (DispatchOp γ)) :
    NeverFixed (early ++ .activate :: late) (run (early ++ .activate :: late) {}) := by
  have hrun : run (early ++ .activate :: late) {} =
      ⟨(late.filter isSet).map fun _ => some .pipelineActive, [],
        { active := true, discarded := early.length + late.countP isDispatch }⟩ := by
    rw [run_append, run_of_forall_isDispatch rfl hearly]
    have hlate := run_of_active (d := { active := true, discarded := early.length }) rfl rfl late
    simp [run, apply, activate, hlate]
  rw [hrun]
  refine ⟨fun before c after heq => ?_, ?_, rfl, by simp [isActivate], rfl, rfl, ?_⟩
  · -- the attempt stands behind the first activation, before which there are dispatches only
    rcases List.append_eq_append_iff.1 heq with ⟨between, rfl, hlate⟩ | ⟨between, rfl, hset⟩
    · cases between with
      | nil => exact absurd hlate (by simp)
      | cons op between =>
        obtain ⟨rfl, -⟩ := List.cons.inj hlate
        simp [isActivate]
    · cases between with
      | nil => exact absurd hset (by simp)
      | cons op between =>
        obtain ⟨rfl, -⟩ := List.cons.inj hset
        exact absurd (hearly (.set c) (by simp)) (by simp [isDispatch])
  · simp [filter_isSet_eq_nil hearly, isSet]
  · simp [List.countP_eq_length.2 hearly, isDispatch]

/-- The consumer of a fresh dispatch is fixed once, whatever is done with it. -/
lemma fixedOnce_run (ops : List (DispatchOp γ)) : FixedOnce ops (run ops {}) := by
  -- what comes of it is decided by the first operation that is no dispatch of a still
  cases hfirst : ops.find? fun op => !op.isDispatch with
  | none =>
    have hops : ∀ op ∈ ops, op.isDispatch = true := by simpa using hfirst
    exact .inr (neverFixed_of_forall_isDispatch hops)
  | some op =>
    obtain ⟨hop, early, late, rfl, hearly⟩ := List.find?_eq_some_iff_append.1 hfirst
    have hearly' : ∀ op ∈ early, op.isDispatch = true := by simpa using hearly
    cases op with
    | dispatch callee data returns => exact absurd hop (by simp [isDispatch])
    | set c => exact .inl ⟨early, c, late, rfl, fixedBy_run hearly' c late⟩
    | activate => exact .inr (neverFixed_of_activate hearly' late)

end Dispatch
end SipStills
