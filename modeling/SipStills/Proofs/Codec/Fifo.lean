/-
# Decoders that give out their pictures in order

A decoder with an output queue may refuse packets while the queue is long; every packet that it
accepts adds pictures to the end of the queue, and pictures leave it at the front.  `FifoView`
says how the queue, and the packets accepted so far, are read off the decoder's state, and
`FifoView.Fits` that the decoder works in this way.  When it refuses packets is left to the
decoder, as long as it does so only while more pictures are waiting than a fixed number.

Feeding such a decoder leaves its queue empty, so that the next packet is accepted.  `FedOnce`
says what one call does (`decodeLatest_fedOnce`), and `FedInOrder` what the calls of a run do
(`feedAll_fedInOrder`).  No bound on the number of requests is part of these results: from some
bound on every bound gives the same run.
-/
import Mathlib.Tactic.Lemma
import SipStills.Codec.Feed

namespace SipStills

variable {σ φ ε : Type}

/-! ### Output queues -/

/-- What is seen of the states of a decoder with an output queue. -/
structure FifoView (σ φ : Type) where
  /-- The pictures that are ready, the oldest first. -/
  queue : σ → List φ
  /-- The packets that were accepted, the oldest first. -/
  fed : σ → List Bytes
  /-- The pictures that the last of these packets adds to the queue. -/
  emits : List Bytes → List φ
  /-- So many pictures may wait without a packet being refused. -/
  bound : Nat

namespace FifoView

/-- What offering a packet may come to. -/
inductive Sends (v : FifoView σ φ) (packet : Bytes) (s : σ) : Except ε (Flow Unit) × σ → Prop where
  /-- Too many pictures are waiting; nothing changes. -/
  | refused {s' : σ} (hfull : v.bound < (v.queue s).length) (hqueue : v.queue s' = v.queue s)
      (hfed : v.fed s' = v.fed s) : Sends v packet s (.ok .again, s')
  /-- The packet is accepted, and its pictures join the queue. -/
  | accepted {s' : σ} (hqueue : v.queue s' = v.queue s ++ v.emits (v.fed s ++ [packet]))
      (hfed : v.fed s' = v.fed s ++ [packet]) : Sends v packet s (.ok (.ready ()), s')

/-- What asking for a picture may come to. -/
inductive Receives (v : FifoView σ φ) (s : σ) : Except ε (Flow φ) × σ → Prop where
  /-- The oldest picture leaves the queue. -/
  | popped {picture : φ} {s' : σ} (hqueue : v.queue s = picture :: v.queue s')
      (hfed : v.fed s' = v.fed s) : Receives v s (.ok (.ready picture), s')
  /-- No picture is waiting. -/
  | empty {s' : σ} (hqueue : v.queue s = []) (hqueue' : v.queue s' = [])
      (hfed : v.fed s' = v.fed s) : Receives v s (.ok .again, s')

/-- The decoder works as the view has it. -/
structure Fits (v : FifoView σ φ) (d : QueueDecoder σ φ ε) : Prop where
  send : ∀ packet s, v.Sends packet s (d.send packet s)
  receive : ∀ s, v.Receives s (d.receive s)

/-- With an empty queue every packet is accepted. -/
lemma Sends.of_queue_eq_nil {v : FifoView σ φ} {packet : Bytes} {s : σ}
    {result : Except ε (Flow Unit) × σ} (h : v.Sends packet s result) (hqueue : v.queue s = []) :
    ∃ s', result = (.ok (.ready ()), s') ∧ v.queue s' = v.emits (v.fed s ++ [packet])
      ∧ v.fed s' = v.fed s ++ [packet] := by
  cases h with
  | refused hfull _ _ =>
    rw [hqueue] at hfull
    exact absurd hfull (Nat.not_lt_zero _)
  | @accepted s' hadded hfed =>
    rw [hqueue, List.nil_append] at hadded
    exact ⟨s', rfl, hadded, hfed⟩

end FifoView

/-- The newest of some pictures, the oldest of which comes first. -/
def newest (pictures : List φ) : Flow φ := pictures.getLast?.elim .again .ready

lemma conclude_eq_newest (pictures : List φ) :
    QueueDecoder.conclude pictures.getLast? false = newest pictures := by
  unfold newest
  cases pictures.getLast? <;> rfl

/-! ### One call -/

/-- What feeding a packet does: the packet joins those that were accepted, no picture is left
waiting, and the answer is the newest of the pictures that were waiting or that the packet has
added. -/
structure FedOnce (v : FifoView σ φ) (packet : Bytes) (s : σ)
    (answer : Except (FeedFault ε) (Flow φ)) (s' : σ) : Prop where
  fed : v.fed s' = v.fed s ++ [packet]
  queue : v.queue s' = []
  answer : answer = .ok (newest (v.queue s ++ v.emits (v.fed s ++ [packet])))

namespace QueueDecoder

variable {v : FifoView σ φ} {d : QueueDecoder σ φ ε}

/-- Taking out empties the queue, and its newest picture takes the place of the one before. -/
lemma takeOut_of_fits (h : v.Fits d) (s : σ) :
    ∃ s', v.queue s' = [] ∧ v.fed s' = v.fed s
      ∧ ∀ latest limit, (v.queue s).length < limit →
        d.takeOut limit latest s = some (.ok ((v.queue s).getLast?.or latest, false), s') := by
  generalize hqueue : v.queue s = queue
  induction queue generalizing s with
  | nil =>
    have hreceive := h.receive s
    rcases hr : d.receive s with ⟨answer, s'⟩
    rw [hr] at hreceive
    cases hreceive with
    | popped hcons _ => exact absurd (hqueue.symm.trans hcons) (by simp)
    | empty _ hqueue' hfed =>
      refine ⟨s', hqueue', hfed, fun latest limit hlimit => ?_⟩
      obtain ⟨limit, rfl⟩ := Nat.exists_eq_add_of_lt hlimit
      simp [takeOut, hr]
  | cons picture rest ih =>
    have hreceive := h.receive s
    rcases hr : d.receive s with ⟨answer, s₁⟩
    rw [hr] at hreceive
    cases hreceive with
    | popped hcons hfed =>
      obtain ⟨rfl, hrest⟩ := List.cons.inj (hqueue.symm.trans hcons)
      obtain ⟨s', hqueue', hfed', htake⟩ := ih s₁ hrest.symm
      refine ⟨s', hqueue', hfed'.trans hfed, fun latest limit hlimit => ?_⟩
      obtain ⟨limit, rfl⟩ : ∃ n, limit = n + 1 := ⟨limit - 1, by simp at hlimit; omega⟩
      have hlimit' : rest.length < limit := by simpa using hlimit
      -- the picture is the newest one if no other is waiting
      simp only [takeOut, hr, htake (some _) limit hlimit', List.getLast?_cons]
      cases rest.getLast? <;> rfl
    | empty hnil _ _ => exact absurd (hqueue.symm.trans hnil) (by simp)

/-- What is taken out after a packet was accepted. -/
lemma takeRest_of_fits (h : v.Fits d) (s : σ) :
    ∃ s', v.queue s' = [] ∧ v.fed s' = v.fed s
      ∧ ∀ waited : List φ, ∀ limit, (v.queue s).length < limit →
        d.takeRest limit waited.getLast? s = some (.ok (newest (waited ++ v.queue s)), s') := by
  obtain ⟨s', hqueue, hfed, htake⟩ := takeOut_of_fits h s
  refine ⟨s', hqueue, hfed, fun waited limit hlimit => ?_⟩
  simp only [takeRest, htake _ limit hlimit, ← List.getLast?_append, conclude_eq_newest]

/-- One call feeds its packet once, whether the packet is accepted at the first offer or at the
second. -/
lemma decodeLatest_fedOnce (h : v.Fits d) (packet : Bytes) (s : σ) :
    ∃ enough answer s', FedOnce v packet s answer s'
      ∧ ∀ limit, enough ≤ limit → d.decodeLatest limit packet s = some (answer, s') := by
  have hsend := h.send packet s
  rcases hs : d.send packet s with ⟨answer, s₁⟩
  rw [hs] at hsend
  cases hsend with
  | accepted hqueue₁ hfed₁ =>
    obtain ⟨s', hqueue, hfed, htake⟩ := takeRest_of_fits h s₁
    refine ⟨(v.queue s₁).length + 1, _, s', ⟨hfed.trans hfed₁, hqueue, rfl⟩, fun limit hlimit => ?_⟩
    simp only [decodeLatest, hs]
    rw [← hqueue₁]
    exact htake [] limit hlimit
  | refused _ hqueue₁ hfed₁ =>
    -- the output is taken out, which makes room for the packet
    obtain ⟨s₂, hqueue₂, hfed₂, htake₂⟩ := takeOut_of_fits h s₁
    obtain ⟨s₃, hs₃, hqueue₃, hfed₃⟩ := (h.send packet s₂).of_queue_eq_nil hqueue₂
    obtain ⟨s', hqueue, hfed, htake⟩ := takeRest_of_fits h s₃
    rw [hfed₂, hfed₁] at hqueue₃ hfed₃
    refine ⟨(v.queue s₁).length + (v.queue s₃).length + 1, _, s',
      ⟨hfed.trans hfed₃, hqueue, rfl⟩, fun limit hlimit => ?_⟩
    simp only [decodeLatest, hs, retry, htake₂ none limit (by omega), Option.or_none, hs₃,
      Bool.false_eq_true, if_false]
    rw [htake (v.queue s₁) limit (by omega), hqueue₁, hqueue₃]

/-! ### Runs -/

/-- Feeds packets one after the other: the answer to each, and the state behind it. -/
def feedAll (d : QueueDecoder σ φ ε) (limit : Nat) :
    List Bytes → σ → Option (List (Except (FeedFault ε) (Flow φ) × σ))
  | [], _ => some []
  | packet :: packets, s =>
    match d.decodeLatest limit packet s with
    | none => none
    | some (answer, s') => (feedAll d limit packets s').map ((answer, s') :: ·)

end QueueDecoder

/-- Every call of the run feeds its packet once, and starts where the one before has ended. -/
inductive FedInOrder (v : FifoView σ φ) :
    σ → List Bytes → List (Except (FeedFault ε) (Flow φ) × σ) → Prop where
  | nil (s : σ) : FedInOrder v s [] []
  | cons {packet : Bytes} {packets : List Bytes} {s s' : σ}
      {answer : Except (FeedFault ε) (Flow φ)} {calls : List (Except (FeedFault ε) (Flow φ) × σ)}
      (hcall : FedOnce v packet s answer s') (hrest : FedInOrder v s' packets calls) :
      FedInOrder v s (packet :: packets) ((answer, s') :: calls)

namespace FedInOrder

variable {v : FifoView σ φ} {s : σ} {packets : List Bytes}
  {calls : List (Except (FeedFault ε) (Flow φ) × σ)}

lemma length_eq (h : FedInOrder v s packets calls) : calls.length = packets.length := by
  induction h with
  | nil s => rfl
  | cons _ _ ih => rw [List.length_cons, List.length_cons, ih]

/-- After a call the packets so far were accepted, each once and in their order, and no picture is
waiting. -/
lemma fed_and_queue_of_getElem? (h : FedInOrder v s packets calls) {i : Nat}
    {answer : Except (FeedFault ε) (Flow φ)} {s' : σ} (hi : calls[i]? = some (answer, s')) :
    v.fed s' = v.fed s ++ packets.take (i + 1) ∧ v.queue s' = [] := by
  induction h generalizing i with
  | nil s => exact absurd hi (by simp)
  | @cons packet packets s s₁ first calls hcall _ ih =>
    cases i with
    | zero =>
      obtain ⟨rfl, rfl⟩ : first = answer ∧ s₁ = s' := by simpa using hi
      exact ⟨by simpa using hcall.fed, hcall.queue⟩
    | succ i =>
      obtain ⟨hfed, hqueue⟩ := ih (by simpa using hi)
      refine ⟨?_, hqueue⟩
      rw [hfed, hcall.fed, List.append_assoc, List.singleton_append, List.take_succ_cons]

end FedInOrder

namespace QueueDecoder

variable {v : FifoView σ φ} {d : QueueDecoder σ φ ε}

/-- Each call of a run starts where the one before has ended, so that its packet is fed once. -/
lemma feedAll_fedInOrder (h : v.Fits d) (packets : List Bytes) (s : σ) :
    ∃ enough calls, FedInOrder v s packets calls
      ∧ ∀ limit, enough ≤ limit → d.feedAll limit packets s = some calls := by
  induction packets generalizing s with
  | nil => exact ⟨0, [], .nil s, fun _ _ => rfl⟩
  | cons packet packets ih =>
    obtain ⟨enough, answer, s', hcall, hfirst⟩ := decodeLatest_fedOnce h packet s
    obtain ⟨enough', calls, hcalls, hrest⟩ := ih s'
    refine ⟨max enough enough', (answer, s') :: calls, .cons hcall hcalls, fun limit hlimit => ?_⟩
    obtain ⟨hlimit₁, hlimit₂⟩ := Nat.max_le.1 hlimit
    simp only [feedAll, hfirst limit hlimit₁, hrest limit hlimit₂, Option.map_some]

/-- A decoder with an output queue is fed every packet of a run exactly once.  Whatever is waiting
in the queue at first, and whatever the packets are: the calls come to an end and none of them
fails; after each, the packets accepted are those so far, in their order, and the queue is empty;
and each answers the newest of the pictures that were in the queue in the course of it. -/
theorem feedAll_feeds_once (h : v.Fits d) (packets : List Bytes) (s : σ) :
    ∃ enough calls, (∀ limit, enough ≤ limit → d.feedAll limit packets s = some calls)
      ∧ FedInOrder v s packets calls
      ∧ calls.length = packets.length
      ∧ ∀ i answer s', calls[i]? = some (answer, s') →
        v.fed s' = v.fed s ++ packets.take (i + 1) ∧ v.queue s' = [] := by
  obtain ⟨enough, calls, hcalls, hrun⟩ := feedAll_fedInOrder h packets s
  exact ⟨enough, calls, hrun, hcalls, hcalls.length_eq,
    fun i answer s' hi => hcalls.fed_and_queue_of_getElem? hi⟩

end QueueDecoder

/-! ### A decoder that is its queue -/

/-- The view of states that are the accepted packets and the queue. -/
def plainView (bound : Nat) (emits : List Bytes → List φ) : FifoView (List Bytes × List φ) φ where
  queue s := s.2
  fed s := s.1
  emits := emits
  bound := bound

/-- The decoder that refuses packets exactly while too many pictures are waiting. -/
def plainDecoder (bound : Nat) (emits : List Bytes → List φ) :
    QueueDecoder (List Bytes × List φ) φ ε where
  send packet s :=
    if bound < s.2.length then (.ok .again, s)
    else (.ok (.ready ()), s.1 ++ [packet], s.2 ++ emits (s.1 ++ [packet]))
  receive s :=
    match s.2 with
    | [] => (.ok .again, s)
    | picture :: rest => (.ok (.ready picture), s.1, rest)

lemma fits_plainDecoder (bound : Nat) (emits : List Bytes → List φ) :
    (plainView bound emits).Fits (plainDecoder bound emits : QueueDecoder _ φ ε) where
  send packet s := by
    by_cases hfull : bound < s.2.length
    · simp only [plainDecoder, if_pos hfull]
      exact .refused hfull rfl rfl
    · simp only [plainDecoder, if_neg hfull]
      exact .accepted rfl rfl
  receive s := by
    obtain ⟨fed, _ | ⟨picture, rest⟩⟩ := s
    · exact .empty rfl rfl rfl
    · exact .popped rfl rfl

namespace QueueDecoder

/-- Each byte of a packet becomes a picture.  The first packet is refused at first, and the second
adds no picture. -/
theorem feedAll_feeds_once_backlog :
    let emits : List Bytes → List UInt8 := fun fed => fed.getLast?.getD []
    let d : QueueDecoder (List Bytes × List UInt8) UInt8 String := plainDecoder 1 emits
    let v := plainView 1 emits
    let start : List Bytes × List UInt8 := ([], [1, 2])
    let packets : List Bytes := [[20], [], [30, 31]]
    v.Fits d
      ∧ (d.send [20] start).1 = .ok .again
      ∧ (d.feedAll 5 packets start).map (·.map (·.1))
        = some [.ok (.ready 20), .ok .again, .ok (.ready 31)]
      ∧ ∃ enough calls, (∀ limit, enough ≤ limit → d.feedAll limit packets start = some calls)
        ∧ FedInOrder v start packets calls
        ∧ calls.length = packets.length
        ∧ ∀ i answer s', calls[i]? = some (answer, s') →
          v.fed s' = v.fed start ++ packets.take (i + 1) ∧ v.queue s' = [] := by
  intro emits d v start packets
  have hfits : v.Fits d := fits_plainDecoder 1 emits
  exact ⟨hfits, rfl, rfl, feedAll_feeds_once hfits packets start⟩

end QueueDecoder
end SipStills
