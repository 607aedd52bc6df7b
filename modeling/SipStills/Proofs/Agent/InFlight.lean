/-
# For which bodies a teardown waits

Bodies of notifications begin and end on any number of threads, for any number of agents, and nest
on their threads (`InFlight.Step`).  A teardown of an agent is let through on a thread while the
count of the agent does not exceed the depth of the thread.  The count is of the agent's bodies on
all threads, and the depth is of the thread's bodies for all agents.  What they share are the
agent's own bodies on that thread, and so it is the rest that is compared: the agent's bodies
`elsewhere` with the `strangers` on the thread (`letsThrough_iff`).

On a thread without strangers a teardown waits for exactly the bodies of its agent on other
threads.  A stranger makes up for a body elsewhere, and then the engine is torn down under that body
(`torn_down_under_body`).
-/
import Mathlib.Tactic.Lemma
import SipStills.Agent.World
import SipStills.Pipeline.Synthetic

namespace SipStills

namespace InFlight

/-- A body begins, or the innermost body of a thread ends. -/
inductive Step : InFlight → InFlight → Prop where
  | enter (b : Body) (s : InFlight) : Step s (s.enter b)
  | leave {b : Body} {s : InFlight}
      (h : s.bodies.find? (fun x => x.thread == b.thread) = some b) : Step s (s.leave b)

/-- What is under way after any number of steps, of any agents and threads, from rest. -/
inductive Reachable : InFlight → Prop where
  | rest : Reachable {}
  | step {s s' : InFlight} (h : Reachable s) (hstep : Step s s') : Reachable s'

/-- The number of bodies of an agent on threads other than `t`. -/
def elsewhere (s : InFlight) (agent : Nat) (t : ThreadId) : Nat :=
  s.bodies.countP fun b => b.agent == agent && b.thread != t

/-- The number of bodies on a thread that are of agents other than the given one. -/
def strangers (s : InFlight) (agent : Nat) (t : ThreadId) : Nat :=
  s.bodies.countP fun b => b.thread == t && b.agent != agent

/-- The number of bodies with a given mark, which is their agent or their thread. -/
def marked (mark : Body → Nat) (bodies : List Body) (i : Nat) : Nat :=
  bodies.countP fun b => mark b == i

lemma changeAt_marked_cons (mark : Body → Nat) (b : Body) (bodies : List Body) :
    changeAt (· + 1) (mark b) (marked mark bodies) = marked mark (b :: bodies) := by
  funext i
  simp only [changeAt, marked, List.countP_cons]
  by_cases hi : i = mark b
  · simp [hi]
  · have hne : ¬ mark b = i := fun h => hi h.symm
    simp [hi, hne]

lemma changeAt_marked_erase (mark : Body → Nat) {b : Body} {bodies : List Body}
    (hb : b ∈ bodies) :
    changeAt (· - 1) (mark b) (marked mark bodies) = marked mark (bodies.erase b) := by
  funext i
  have hperm := (List.perm_cons_erase hb).countP_eq fun b => mark b == i
  rw [List.countP_cons] at hperm
  simp only [changeAt, marked, hperm]
  by_cases hi : i = mark b
  · simp [hi]
  · have hne : ¬ mark b = i := fun h => hi h.symm
    simp [hi, hne]

/-- The counters are those of the bodies. -/
structure Counted (s : InFlight) : Prop where
  count : s.count = marked Body.agent s.bodies
  depth : s.depth = marked Body.thread s.bodies

lemma counted_rest : Counted {} := ⟨rfl, rfl⟩

lemma Counted.enter {s : InFlight} (h : s.Counted) (b : Body) : (s.enter b).Counted where
  count := by simp only [InFlight.enter, h.count, changeAt_marked_cons]
  depth := by simp only [InFlight.enter, h.depth, changeAt_marked_cons]

lemma Counted.leave {s : InFlight} (h : s.Counted) {b : Body} (hb : b ∈ s.bodies) :
    (s.leave b).Counted where
  count := by simp only [InFlight.leave, h.count, changeAt_marked_erase _ hb]
  depth := by simp only [InFlight.leave, h.depth, changeAt_marked_erase _ hb]

lemma Reachable.counted {s : InFlight} (h : s.Reachable) : s.Counted := by
  induction h with
  | rest => exact counted_rest
  | step _ hstep ih =>
    cases hstep with
    | enter b s => exact ih.enter b
    | leave hinnermost => exact ih.leave (List.mem_of_find?_eq_some hinnermost)

/-- The bodies of an agent and the bodies of a thread have the agent's bodies on the thread in
common. -/
lemma count_add_strangers (s : InFlight) (agent : Nat) (t : ThreadId) :
    marked Body.agent s.bodies agent + s.strangers agent t
      = marked Body.thread s.bodies t + s.elsewhere agent t := by
  unfold marked strangers elsewhere
  -- a body counts the same on both sides, whichever of the two marks it bears
  induction s.bodies with
  | nil => rfl
  | cons b bodies ih =>
    simp only [List.countP_cons]
    by_cases hagent : b.agent = agent <;> by_cases ht : b.thread = t <;>
      simp [hagent, ht] <;> omega

lemma elsewhere_eq_zero_iff (s : InFlight) (agent : Nat) (t : ThreadId) :
    s.elsewhere agent t = 0 ↔ ∀ b ∈ s.bodies, b.agent = agent → b.thread = t := by
  simp [elsewhere, List.countP_eq_zero]

lemma strangers_eq_zero_iff (s : InFlight) (agent : Nat) (t : ThreadId) :
    s.strangers agent t = 0 ↔ ∀ b ∈ s.bodies, b.thread = t → b.agent = agent := by
  simp [strangers, List.countP_eq_zero]

/-- A teardown is let through as soon as there are no more bodies of its agent on other threads than
there are bodies of other agents on its own.  So where its thread is in no body of another agent,
it is let through exactly when all bodies of its agent that are still under way are on its own
thread. -/
theorem letsThrough_iff {s : InFlight} (h : s.Reachable) (agent : Nat) (t : ThreadId) :
    (s.letsThrough agent t = true ↔ s.elsewhere agent t ≤ s.strangers agent t)
      ∧ ((∀ b ∈ s.bodies, b.thread = t → b.agent = agent) →
          (s.letsThrough agent t = true ↔ ∀ b ∈ s.bodies, b.agent = agent → b.thread = t)) := by
  have hcompare : s.letsThrough agent t = true ↔ s.elsewhere agent t ≤ s.strangers agent t := by
    have hsum := s.count_add_strangers agent t
    rw [letsThrough, decide_eq_true_iff, h.counted.count, h.counted.depth]
    omega
  refine ⟨hcompare, fun hown => ?_⟩
  rw [hcompare, (s.strangers_eq_zero_iff agent t).2 hown, Nat.le_zero, elsewhere_eq_zero_iff]

/-- Two nested bodies of agent `0` on thread `1`, and a body of agent `1` on thread `2`. -/
def nested : InFlight := ((InFlight.enter ⟨0, 1⟩ {}).enter ⟨1, 2⟩).enter ⟨0, 1⟩

theorem letsThrough_iff_nested :
    nested.Reachable ∧ (∀ b ∈ nested.bodies, b.thread = 1 → b.agent = 0)
      ∧ (nested.letsThrough 0 1 = true ↔ ∀ b ∈ nested.bodies, b.agent = 0 → b.thread = 1)
      ∧ nested.letsThrough 0 1 = true ∧ nested.letsThrough 0 3 = false := by
  have hreachable : nested.Reachable :=
    ((Reachable.rest.step (.enter _ _)).step (.enter _ _)).step (.enter _ _)
  have hown : ∀ b ∈ nested.bodies, b.thread = 1 → b.agent = 0 := by decide
  exact ⟨hreachable, hown, (letsThrough_iff hreachable 0 1).2 hown, rfl, rfl⟩

/-! ### A stranger makes up for a body elsewhere -/

/-- Agent `0` at work while thread `2` is in a body of agent `1`. -/
def besideStranger : World SyntheticDevices Bool Unit Unit where
  agent :=
    { engine := { state := .running }
      pipeline :=
        { registry := { decoders := [syntheticDecoder (.plain false) .h264 0] }
          devices := [{}] } }
  inFlight := InFlight.enter ⟨1, 2⟩ {}
  notes := ()

/-- From within that body, agent `0` is torn down under the body of its own that thread `1` is in:
it does not wait, and finds its engine torn down before the body has ended. -/
theorem torn_down_under_body :
    let w := besideStranger.enter 1
    let event : DecodeEvent := ⟨"cam-1", .h264, 0, 1, 0, [5]⟩
    w.inFlight.Reachable ∧ w.inFlight.letsThrough 0 2 = true
      ∧ (∃ b ∈ w.inFlight.bodies, b.agent = 0 ∧ b.thread ≠ 2)
      ∧ (besideStranger.destroyDuring {} 1 1 2 event).1 = ⟨.null, 1⟩ := by
  intro w event
  have hreachable : w.inFlight.Reachable :=
    (Reachable.rest.step (.enter _ _)).step (.enter _ _)
  exact ⟨hreachable, rfl, ⟨⟨0, 1⟩, by decide, by decide⟩, rfl⟩

end InFlight
end SipStills
