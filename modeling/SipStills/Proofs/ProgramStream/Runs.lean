/-
# Runs of a demuxer

A run is any list of calls, pushes and `finish` in any order.  Whatever the bytes are, the lengths
stay level along a run (`Level.run`), and the units that it gives out are numbered one after the
other, with numbers that wrap around (`numbers_run`).

That the numbers go on is stated between two states (`Numbers`), so that it composes: a portion
gives out at most one unit and moves the next number as `flush` does; draining, a call and a run
are chains of such moves.
-/
import SipStills.Proofs.ProgramStream.Units

namespace SipStills.ProgramStream

/-- A call of a demuxer. -/
inductive Call where
  | push (chunk : Bytes)
  | finish
deriving DecidableEq

/-- The bytes that a call brings. -/
def Call.bytes : Call → Bytes
  | push chunk => chunk
  | finish => []

/-- The unit has data, and no more of it than its packets announce. -/
structure AccessUnit.IsPart (u : AccessUnit) : Prop where
  data_ne_nil : u.data ≠ []
  length_le : u.data.length ≤ u.expected

lemma AccessUnit.IsWhole.isPart {u : AccessUnit} (h : u.IsWhole) : u.IsPart :=
  ⟨h.data_ne_nil, Nat.le_of_eq h.expected_eq.symm⟩

lemma AccessUnit.IsWhole.remaining_eq {u : AccessUnit} (h : u.IsWhole) : u.remaining = 0 := by
  rw [remaining, h.expected_eq, Nat.sub_self]

namespace Demuxer

/-- The units that a call gives out, and the state after it. -/
def answer (d : Demuxer) : Call → List AccessUnit × Demuxer
  | .push chunk => d.push chunk
  | .finish => (d.finish.1.toList, d.finish.2)

/-- The calls of a run with the units that each of them gives out, and the state after the last. -/
def run (d : Demuxer) : List Call → List (Call × List AccessUnit) × Demuxer
  | [] => ([], d)
  | call :: calls =>
    let r := d.answer call
    let rest := run r.2 calls
    ((call, r.1) :: rest.1, rest.2)

lemma reachable_answer {d : Demuxer} (h : d.Reachable) (call : Call) :
    (d.answer call).2.Reachable := by
  cases call with
  | push chunk => exact h.push chunk
  | finish => exact h.finish

/-! ### Lengths -/

/-- What a call gives out has data and is no longer than announced; only `finish` may give out a
unit of which bytes are missing. -/
lemma Level.answer {d : Demuxer} (h : d.Level) (call : Call) :
    (d.answer call).2.Level
      ∧ ∀ u ∈ (d.answer call).1, u.IsPart ∧ (call ≠ .finish → u.IsWhole) := by
  cases call with
  | push chunk =>
    obtain ⟨hlevel, hwhole⟩ := h.push chunk
    exact ⟨hlevel, fun u hu => ⟨(hwhole u hu).isPart, fun _ => hwhole u hu⟩⟩
  | finish =>
    refine ⟨level_flush _, fun u hu => ⟨⟨?_, ?_⟩, fun hne => absurd rfl hne⟩⟩
    · obtain ⟨hne, rfl⟩ := mem_flush_iff.1 (Option.mem_toList.1 hu)
      exact hne
    · exact h.length_data_le_of_mem_finish (Option.mem_toList.1 hu)

lemma Level.run {d : Demuxer} (h : d.Level) (calls : List Call) :
    (d.run calls).2.Level
      ∧ ∀ call us, (call, us) ∈ (d.run calls).1 →
        ∀ u ∈ us, u.IsPart ∧ (call ≠ .finish → u.IsWhole) := by
  induction calls generalizing d with
  | nil => exact ⟨h, fun call us hmem => absurd hmem List.not_mem_nil⟩
  | cons call calls ih =>
    obtain ⟨hnext, hfirst⟩ := h.answer call
    obtain ⟨hlast, hrest⟩ := ih hnext
    refine ⟨hlast, fun call' us hmem => ?_⟩
    rcases List.mem_cons.1 hmem with heq | hmem
    · obtain ⟨rfl, rfl⟩ := Prod.mk.inj heq
      exact hfirst
    · exact hrest call' us hmem

/-! ### Numbers -/

/-- From `d` to `d'` the given units are given out: the first of them has the number that is next
in `d`, each other one the number behind the one before, and the number behind the last is next in
`d'`. -/
structure Numbers (d : Demuxer) (units : List AccessUnit) (d' : Demuxer) : Prop where
  index_eq : ∀ k u, units[k]? = some u → u.index = d.nextIndex + UInt32.ofNat k
  next_eq : d'.nextIndex = d.nextIndex + UInt32.ofNat units.length

lemma Numbers.none {d d' : Demuxer} (h : d'.nextIndex = d.nextIndex) : Numbers d [] d' where
  index_eq k u hu := absurd hu (by simp)
  next_eq := h.trans (UInt32.add_zero _).symm

lemma Numbers.trans {d e f : Demuxer} {units more : List AccessUnit} (h : Numbers d units e)
    (h' : Numbers e more f) : Numbers d (units ++ more) f where
  index_eq k u hu := by
    rcases Nat.lt_or_ge k units.length with hk | hk
    · rw [List.getElem?_append_left hk] at hu
      exact h.index_eq k u hu
    · rw [List.getElem?_append_right hk] at hu
      rw [h'.index_eq _ u hu, h.next_eq, UInt32.add_assoc, ← UInt32.ofNat_add,
        Nat.add_sub_cancel' hk]
  next_eq := by
    rw [h'.next_eq, h.next_eq, UInt32.add_assoc, ← UInt32.ofNat_add, List.length_append]

/-- Only the number of the next unit counts where the units begin. -/
lemma Numbers.of_nextIndex_eq {d e f : Demuxer} {units : List AccessUnit} (h : Numbers e units f)
    (heq : e.nextIndex = d.nextIndex) : Numbers d units f where
  index_eq k u hu := by rw [← heq, h.index_eq k u hu]
  next_eq := by rw [← heq, h.next_eq]

lemma numbers_flush (d : Demuxer) : Numbers d d.flush.1.toList d.flush.2 := by
  by_cases h : d.payload = []
  · rw [flush, if_pos h]
    exact .none rfl
  · rw [flush, if_neg h]
    refine ⟨fun k u hu => ?_, rfl⟩
    obtain ⟨hk, rfl⟩ := List.getElem?_eq_some_iff.1 hu
    obtain rfl : k = 0 := Nat.lt_one_iff.1 hk
    exact (UInt32.add_zero _).symm

lemma numbers_absorb (d : Demuxer) (p : Portion) :
    Numbers d (d.absorb p).1.toList (d.absorb p).2 := by
  cases p with
  | incomplete | garbage n | other n | map n | video n header => exact .none rfl
  | pack n | endCode => exact numbers_flush d

lemma numbers_advance (d : Demuxer) : Numbers d d.advance.1.toList d.advance.2 := by
  obtain ⟨hindex, hnext⟩ := numbers_absorb d (portion d.pending)
  exact ⟨hindex, hnext⟩

lemma numbers_drain (d : Demuxer) : Numbers d d.drain.1 d.drain.2 := by
  fun_induction drain d with
  | case1 d h => exact .none rfl
  | case2 d h hlt r rest ih => exact (numbers_advance d).trans ih

lemma numbers_answer (d : Demuxer) (call : Call) :
    Numbers d (d.answer call).1 (d.answer call).2 := by
  cases call with
  | push chunk => exact (numbers_drain (d.feed chunk)).of_nextIndex_eq rfl
  | finish =>
    obtain ⟨payload, announced, -, heq⟩ := exists_salvage_eq { d with pending := [] } d.pending
    exact (numbers_flush _).of_nextIndex_eq (by rw [heq]; rfl)

/-- The units of a run are numbered one after the other. -/
lemma numbers_run (d : Demuxer) (calls : List Call) :
    Numbers d ((d.run calls).1.flatMap Prod.snd) (d.run calls).2 := by
  induction calls generalizing d with
  | nil => exact .none rfl
  | cons call calls ih => exact (numbers_answer d call).trans (ih (d.answer call).2)

end Demuxer
end SipStills.ProgramStream
