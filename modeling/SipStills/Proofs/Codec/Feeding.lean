/-
# Feeding a packet

`Feeding` says which calls are made to feed a packet, depending on the answers to the calls before.
It speaks of no decoder, and it does not follow the way in which `decodeLatest` carries the newest
picture along.

* `decodeLatest_iff_feeding`: for every decoder, what feeding a packet does is what `Feeding` and
  `outcome` say, and it comes to an end exactly if the decoder runs dry wherever pictures are taken
  out of it.
* `accepted_unless_ended`: a packet for which an answer other than the end is given was accepted,
  unless the decoder answered its second offer by the end.  Then the answer is a picture that was
  waiting, and the packet is passed over (`passed_over_at_end`).
-/
import SipStills.Proofs.Codec.Exchange

namespace SipStills

variable {σ φ ε : Type}

/-! ### The calls -/

/-- The calls that are made to feed a packet, with answers that lead to them. -/
inductive Feeding (packet : Bytes) : List (Exchange φ ε) → Prop where
  /-- The offer fails. -/
  | failed (e : ε) : Feeding packet [.offer packet (.error e)]
  /-- The decoder has ended. -/
  | ended : Feeding packet [.offer packet (.ok .eof)]
  /-- The packet is accepted, and pictures are taken out. -/
  | accepted (pictures : List φ) (last : Dry ε) :
      Feeding packet (.offer packet (.ok (.ready ())) :: takingOut pictures last)
  /-- The packet is refused, and taking out pictures fails. -/
  | broken (pictures : List φ) (e : ε) :
      Feeding packet (.offer packet (.ok .again) :: takingOut pictures (.failed e))
  /-- The packet is refused and, once pictures are taken out, offered again.  That is the last
  call if the packet is not accepted then, or if the decoder has ended. -/
  | offeredAgain (pictures : List φ) (ended : Bool) (answer : Except ε (Flow Unit))
      (hlast : answer ≠ .ok (.ready ()) ∨ ended = true) :
      Feeding packet
        (.offer packet (.ok .again) :: takingOut pictures (.ofEnd ended)
          ++ [.offer packet answer])
  /-- The packet is refused and, once pictures are taken out, accepted; more are taken out. -/
  | acceptedLate (pictures rest : List φ) (last : Dry ε) :
      Feeding packet
        (.offer packet (.ok .again) :: takingOut pictures .again
          ++ .offer packet (.ok (.ready ())) :: takingOut rest last)

namespace QueueDecoder

/-- After some pictures the decoder answers something else. -/
def RunsDry (d : QueueDecoder σ φ ε) (s : σ) : Prop :=
  ∃ pictures last s', d.Answers s (takingOut pictures last) s'

/-- Feeding the packet in the first state comes to take out pictures in the second. -/
inductive ComesToTakeOut (d : QueueDecoder σ φ ε) (packet : Bytes) (s : σ) : σ → Prop where
  | accepted {s₁ : σ} (hsend : d.send packet s = (.ok (.ready ()), s₁)) :
      ComesToTakeOut d packet s s₁
  | refused {s₁ : σ} (hsend : d.send packet s = (.ok .again, s₁)) : ComesToTakeOut d packet s s₁
  | acceptedLate {s₁ s₂ s₃ : σ} {pictures : List φ} (hsend : d.send packet s = (.ok .again, s₁))
      (htaken : d.Answers s₁ (takingOut pictures .again) s₂)
      (hagain : d.send packet s₂ = (.ok (.ready ()), s₃)) : ComesToTakeOut d packet s s₃

end QueueDecoder

section Outcome

variable {packet : Bytes} (pictures : List φ)

lemma outcome_accepted (last : Dry ε) :
    outcome (.offer packet (.ok (.ready ())) :: takingOut pictures last)
      = last.settled pictures.getLast? := by
  rw [← List.singleton_append,
    outcome_append_takingOut pictures rfl (by simp [Exchange.isRefusal]) rfl]
  exact congrArg (last.settled ·) Option.or_none

lemma outcome_broken (e : ε) :
    outcome (.offer packet (.ok .again) :: takingOut pictures (.failed e))
      = .error (.decoder e) := by
  rw [← List.singleton_append,
    outcome_append_takingOut pictures rfl (by simp [Exchange.isRefusal]) rfl]
  rfl

lemma outcome_acceptedLate (rest : List φ) (last : Dry ε) :
    outcome (.offer packet (.ok .again) :: takingOut pictures .again
        ++ .offer packet (.ok (.ready ())) :: takingOut rest last)
      = last.settled (rest.getLast?.or pictures.getLast?) := by
  rw [List.append_cons, outcome_append_takingOut]
  · simp only [List.cons_append, List.filterMap_cons, List.filterMap_append, Exchange.picture?,
      filterMap_picture?_takingOut, List.filterMap_nil, List.append_nil]
  · simp only [List.cons_append, List.filterMap_cons, List.filterMap_append, Exchange.error?,
      filterMap_error?_takingOut, List.filterMap_nil, List.append_nil]
  · simp only [List.cons_append, List.countP_cons, List.countP_append, Exchange.isRefusal,
      countP_isRefusal_takingOut, List.countP_nil]
    simp
  · simp only [List.cons_append, List.any_cons, List.any_append, Exchange.isEnd,
      any_isEnd_takingOut, List.any_nil]
    rfl

lemma outcome_offeredAgain (ended : Bool) (answer : Except ε (Flow Unit)) :
    outcome (.offer packet (.ok .again) :: takingOut pictures (.ofEnd ended)
        ++ [.offer packet answer])
      = match answer with
        | .error e => .error (.decoder e)
        | .ok .again => .error .refused
        | .ok .eof => .ok (QueueDecoder.conclude pictures.getLast? true)
        | .ok (.ready ()) => .ok (QueueDecoder.conclude pictures.getLast? ended) := by
  rcases answer with e | (_ | _ | _) <;> cases ended <;>
    simp only [outcome, List.cons_append, List.filterMap_cons, List.filterMap_append,
      List.countP_cons, List.countP_append, List.any_cons, List.any_append,
      filterMap_error?_takingOut, countP_isRefusal_takingOut, filterMap_picture?_takingOut,
      any_isEnd_takingOut, Exchange.error?, Exchange.picture?, Exchange.isRefusal, Exchange.isEnd,
      List.filterMap_nil, List.append_nil, Dry.ofEnd] <;>
    cases pictures.getLast? <;> rfl

end Outcome

namespace QueueDecoder

variable {d : QueueDecoder σ φ ε}

/-! ### Taking out -/

section TakingOut

variable {pictures : List φ} {last : Dry ε} {limit : Nat} {latest : Option φ} {s s' : σ}

lemma getLast?_cons_or (picture : φ) (pictures : List φ) (latest : Option φ) :
    (picture :: pictures).getLast?.or latest = pictures.getLast?.or (some picture) := by
  rw [List.getLast?_cons]
  cases pictures.getLast? <;> rfl

lemma takeOut_of_answers (h : d.Answers s (takingOut pictures last) s')
    (hlimit : pictures.length < limit) :
    d.takeOut limit latest s = some (last.takenOut (pictures.getLast?.or latest), s') := by
  induction pictures generalizing s limit latest with
  | nil =>
    obtain ⟨limit, rfl⟩ := Nat.exists_eq_add_of_lt hlimit
    cases h with
    | request hreceive hrest =>
      cases hrest
      cases last <;> simp [takeOut, hreceive, Dry.answer, Dry.takenOut]
  | cons picture pictures ih =>
    obtain ⟨limit, rfl⟩ : ∃ n, limit = n + 1 := ⟨limit - 1, by simp at hlimit; omega⟩
    cases h with
    | request hreceive hrest =>
      simp only [takeOut, hreceive]
      rw [getLast?_cons_or]
      exact ih hrest (by simpa using hlimit)

lemma answers_of_takeOut {result : Except ε (Option φ × Bool)}
    (h : d.takeOut limit latest s = some (result, s')) :
    ∃ pictures last, d.Answers s (takingOut pictures last) s' ∧ pictures.length < limit
      ∧ result = last.takenOut (pictures.getLast?.or latest) := by
  induction limit generalizing s latest with
  | zero => exact absurd h (by simp [takeOut])
  | succ limit ih =>
    simp only [takeOut] at h
    rcases hr : d.receive s with ⟨answer, s₁⟩
    rw [hr] at h
    rcases answer with e | (picture | _ | _)
    · obtain ⟨rfl, rfl⟩ := Prod.mk.inj (Option.some.inj h)
      exact ⟨[], .failed e, .request hr (.nil _), Nat.succ_pos _, rfl⟩
    · obtain ⟨pictures, last, hrest, hlimit, rfl⟩ := ih h
      exact ⟨picture :: pictures, last, .request hr hrest, Nat.succ_lt_succ hlimit,
        by rw [getLast?_cons_or]⟩
    · obtain ⟨rfl, rfl⟩ := Prod.mk.inj (Option.some.inj h)
      exact ⟨[], .again, .request hr (.nil _), Nat.succ_pos _, rfl⟩
    · obtain ⟨rfl, rfl⟩ := Prod.mk.inj (Option.some.inj h)
      exact ⟨[], .eof, .request hr (.nil _), Nat.succ_pos _, rfl⟩

lemma takeRest_of_answers (h : d.Answers s (takingOut pictures last) s')
    (hlimit : pictures.length < limit) :
    d.takeRest limit latest s = some (last.settled (pictures.getLast?.or latest), s') := by
  rw [takeRest, takeOut_of_answers h hlimit]
  cases last <;> rfl

lemma answers_of_takeRest {result : Except (FeedFault ε) (Flow φ)}
    (h : d.takeRest limit latest s = some (result, s')) :
    ∃ pictures last, d.Answers s (takingOut pictures last) s'
      ∧ result = last.settled (pictures.getLast?.or latest) := by
  rw [takeRest] at h
  rcases ht : d.takeOut limit latest s with _ | ⟨taken, s₁⟩
  · rw [ht] at h
    exact absurd h (by simp)
  · obtain ⟨pictures, last, hanswers, -, rfl⟩ := answers_of_takeOut ht
    rw [ht] at h
    refine ⟨pictures, last, ?_⟩
    cases last <;> obtain ⟨rfl, rfl⟩ := Prod.mk.inj (Option.some.inj h) <;> exact ⟨hanswers, rfl⟩

end TakingOut

/-! ### Feeding a packet -/

variable {packet : Bytes} {s s' : σ} {limit : Nat}

lemma retry_of_broken {pictures : List φ} {e : ε}
    (h : d.Answers s (takingOut pictures (.failed e)) s') (hlimit : pictures.length < limit) :
    d.retry limit packet s = some (.error (.decoder e), s') := by
  rw [retry, takeOut_of_answers h hlimit]
  rfl

/-- The second offer is the last call, unless it is accepted by a decoder that has not ended. -/
lemma retry_of_last {pictures : List φ} {ended : Bool} {answer : Except ε (Flow Unit)} {s₁ : σ}
    (htaken : d.Answers s (takingOut pictures (.ofEnd ended)) s₁)
    (hagain : d.send packet s₁ = (answer, s')) (hlast : answer ≠ .ok (.ready ()) ∨ ended = true)
    (hlimit : pictures.length < limit) :
    d.retry limit packet s
      = some (outcome (.offer packet (.ok .again) :: takingOut pictures (.ofEnd ended)
          ++ [.offer packet answer]), s') := by
  simp only [retry, takeOut_of_answers htaken hlimit, Option.or_none, Dry.takenOut_ofEnd, hagain]
  rw [outcome_offeredAgain]
  rcases answer with e | (_ | _ | _)
  · rfl
  · rcases hlast with hlast | rfl
    · exact absurd rfl hlast
    · rfl
  · rfl
  · rfl

lemma retry_of_accepted {pictures : List φ} {s₁ : σ}
    (htaken : d.Answers s (takingOut pictures .again) s₁)
    (hagain : d.send packet s₁ = (.ok (.ready ()), s')) (hlimit : pictures.length < limit) :
    d.retry limit packet s = d.takeRest limit pictures.getLast? s' := by
  simp only [retry, takeOut_of_answers htaken hlimit, Option.or_none, Dry.takenOut, hagain,
    Bool.false_eq_true, if_false]

/-- If the calls of a feeding are answered in this way, then feeding the packet makes them. -/
lemma decodeLatest_of_feeding {exchanges : List (Exchange φ ε)} (h : Feeding packet exchanges)
    (hanswers : d.Answers s exchanges s') (hlimit : exchanges.length ≤ limit) :
    d.decodeLatest limit packet s = some (outcome exchanges, s') := by
  cases h with
  | failed e =>
    obtain _ | ⟨hsend, hrest⟩ := hanswers
    cases hrest
    simp only [decodeLatest, hsend]
    rfl
  | ended =>
    obtain _ | ⟨hsend, hrest⟩ := hanswers
    cases hrest
    simp only [decodeLatest, hsend]
    rfl
  | accepted pictures last =>
    obtain _ | ⟨hsend, hrest⟩ := hanswers
    have htake : pictures.length < limit := by simp at hlimit; omega
    simp only [decodeLatest, hsend]
    rw [takeRest_of_answers hrest htake, Option.or_none, outcome_accepted]
  | broken pictures e =>
    obtain _ | ⟨hsend, hrest⟩ := hanswers
    have htake : pictures.length < limit := by simp at hlimit; omega
    simp only [decodeLatest, hsend]
    rw [retry_of_broken hrest htake, outcome_broken]
  | offeredAgain pictures ended answer hlast =>
    obtain _ | ⟨hsend, hrest⟩ := hanswers
    obtain ⟨s₂, htaken, _ | ⟨hagain, hnone⟩⟩ := hrest.split
    cases hnone
    have htake : pictures.length < limit := by simp at hlimit; omega
    simp only [decodeLatest, hsend]
    exact retry_of_last htaken hagain hlast htake
  | acceptedLate pictures rest last =>
    obtain _ | ⟨hsend, hrest⟩ := hanswers
    obtain ⟨s₂, htaken, _ | ⟨hagain, hrest⟩⟩ := hrest.split
    have htake : pictures.length < limit := by simp at hlimit; omega
    have htake' : rest.length < limit := by simp at hlimit; omega
    simp only [decodeLatest, hsend]
    rw [retry_of_accepted htaken hagain htake, takeRest_of_answers hrest htake',
      outcome_acceptedLate]

lemma feeding_of_retry {s₁ : σ} {result : Except (FeedFault ε) (Flow φ)}
    (hsend : d.send packet s = (.ok .again, s₁))
    (h : d.retry limit packet s₁ = some (result, s')) :
    ∃ exchanges, Feeding packet exchanges ∧ d.Answers s exchanges s'
      ∧ result = outcome exchanges := by
  rcases ht : d.takeOut limit none s₁ with _ | ⟨taken, s₂⟩
  · simp only [retry, ht] at h
    exact absurd h (by simp)
  obtain ⟨pictures, last, htaken, hlimit, rfl⟩ := answers_of_takeOut ht
  obtain ⟨e, rfl⟩ | ⟨ended, rfl⟩ := last.eq_failed_or_ofEnd
  · rw [retry_of_broken htaken hlimit] at h
    obtain ⟨rfl, rfl⟩ := Prod.mk.inj (Option.some.inj h)
    exact ⟨_, .broken pictures e, .offer hsend htaken, (outcome_broken pictures e).symm⟩
  · rcases ha : d.send packet s₂ with ⟨answer, s₃⟩
    by_cases hlast : answer ≠ .ok (.ready ()) ∨ ended = true
    · rw [retry_of_last htaken ha hlast hlimit] at h
      obtain ⟨rfl, rfl⟩ := Prod.mk.inj (Option.some.inj h)
      exact ⟨_, .offeredAgain pictures ended answer hlast,
        .offer hsend (htaken.append (.offer ha (.nil _))), rfl⟩
    · obtain ⟨rfl, rfl⟩ : answer = .ok (.ready ()) ∧ ended = false := by simpa using hlast
      rw [retry_of_accepted htaken ha hlimit] at h
      obtain ⟨rest, last, hrest, rfl⟩ := answers_of_takeRest h
      exact ⟨_, .acceptedLate pictures rest last,
        .offer hsend (htaken.append (.offer ha hrest)), (outcome_acceptedLate ..).symm⟩

/-- Feeding the packet makes the calls of a feeding, and its result is what their answers come
to. -/
lemma feeding_of_decodeLatest {result : Except (FeedFault ε) (Flow φ)}
    (h : d.decodeLatest limit packet s = some (result, s')) :
    ∃ exchanges, Feeding packet exchanges ∧ d.Answers s exchanges s'
      ∧ result = outcome exchanges := by
  rcases hs : d.send packet s with ⟨answer, s₁⟩
  simp only [decodeLatest, hs] at h
  rcases answer with e | (_ | _ | _)
  · obtain ⟨rfl, rfl⟩ := Prod.mk.inj (Option.some.inj h)
    exact ⟨_, .failed e, .offer hs (.nil _), rfl⟩
  · obtain ⟨pictures, last, hanswers, rfl⟩ := answers_of_takeRest h
    exact ⟨_, .accepted pictures last, .offer hs hanswers, by rw [outcome_accepted, Option.or_none]⟩
  · exact feeding_of_retry hs h
  · obtain ⟨rfl, rfl⟩ := Prod.mk.inj (Option.some.inj h)
    exact ⟨_, .ended, .offer hs (.nil _), rfl⟩

/-- Where feeding that has come to an end has taken out pictures, the decoder has run dry. -/
lemma runsDry_of_decodeLatest {result : Except (FeedFault ε) (Flow φ) × σ}
    (h : d.decodeLatest limit packet s = some result) {s₁ : σ}
    (hcomes : d.ComesToTakeOut packet s s₁) : d.RunsDry s₁ := by
  obtain ⟨result, s'⟩ := result
  cases hcomes with
  | accepted hsend =>
    simp only [decodeLatest, hsend] at h
    obtain ⟨pictures, last, htaken, -⟩ := answers_of_takeRest h
    exact ⟨pictures, last, s', htaken⟩
  | refused hsend =>
    simp only [decodeLatest, hsend, retry] at h
    rcases ht : d.takeOut limit none s₁ with _ | ⟨taken, s₂⟩
    · rw [ht] at h
      exact absurd h (by simp)
    · obtain ⟨pictures, last, htaken, -, -⟩ := answers_of_takeOut ht
      exact ⟨pictures, last, s₂, htaken⟩
  | @acceptedLate s₀ s₂ s₃ pictures hsend htaken hagain =>
    -- a limit that is high enough for the first taking out, too
    obtain ⟨exchanges, hfeeding, hanswers, -⟩ := feeding_of_decodeLatest h
    have h' : d.decodeLatest (exchanges.length + pictures.length + 1) packet s
        = some (outcome exchanges, s') := decodeLatest_of_feeding hfeeding hanswers (by omega)
    simp only [decodeLatest, hsend] at h'
    rw [retry_of_accepted htaken hagain (by omega)] at h'
    obtain ⟨rest, last, hrest, -⟩ := answers_of_takeRest h'
    exact ⟨rest, last, s', hrest⟩

/-- If the decoder runs dry wherever pictures are taken out, then there is a feeding whose calls it
answers. -/
lemma exists_feeding (hdry : ∀ s₁, d.ComesToTakeOut packet s s₁ → d.RunsDry s₁) :
    ∃ exchanges s', Feeding packet exchanges ∧ d.Answers s exchanges s' := by
  rcases hs : d.send packet s with ⟨answer, s₁⟩
  rcases answer with e | (_ | _ | _)
  · exact ⟨_, _, .failed e, .offer hs (.nil _)⟩
  · obtain ⟨pictures, last, s', htaken⟩ := hdry s₁ (.accepted hs)
    exact ⟨_, _, .accepted pictures last, .offer hs htaken⟩
  · obtain ⟨pictures, last, s₂, htaken⟩ := hdry s₁ (.refused hs)
    obtain ⟨e, rfl⟩ | ⟨ended, rfl⟩ := last.eq_failed_or_ofEnd
    · exact ⟨_, _, .broken pictures e, .offer hs htaken⟩
    · rcases ha : d.send packet s₂ with ⟨answer, s₃⟩
      by_cases hlast : answer ≠ .ok (.ready ()) ∨ ended = true
      · exact ⟨_, _, .offeredAgain pictures ended answer hlast,
          .offer hs (htaken.append (.offer ha (.nil _)))⟩
      · obtain ⟨rfl, rfl⟩ : answer = .ok (.ready ()) ∧ ended = false := by simpa using hlast
        obtain ⟨rest, last, s', hrest⟩ := hdry s₃ (.acceptedLate hs htaken ha)
        exact ⟨_, _, .acceptedLate pictures rest last,
          .offer hs (htaken.append (.offer ha hrest))⟩
  · exact ⟨_, _, .ended, .offer hs (.nil _)⟩

/-- What feeding a packet does, for every decoder.  The calls made and the answer are those of a
feeding of the packet whose calls the decoder answers so; and there is an answer exactly if the
decoder runs dry wherever pictures are taken out of it. -/
theorem decodeLatest_iff_feeding (d : QueueDecoder σ φ ε) (packet : Bytes) (s : σ) :
    (∀ calls result s',
      (∃ limit, d.decodeLatest limit packet s = some (result, s')
          ∧ d.recorded.decodeLatest limit packet (s, []) = some (result, s', calls))
        ↔ ∃ exchanges, Feeding packet exchanges ∧ d.Answers s exchanges s'
          ∧ calls = exchanges.map Exchange.call ∧ result = outcome exchanges)
      ∧ ((∃ limit result, d.decodeLatest limit packet s = some result)
          ↔ ∀ s₁, d.ComesToTakeOut packet s s₁ → d.RunsDry s₁) := by
  refine ⟨fun calls result s' => ⟨?_, ?_⟩, ⟨?_, fun hdry => ?_⟩⟩
  · rintro ⟨limit, -, h⟩
    obtain ⟨exchanges, hfeeding, hanswers, hresult⟩ := feeding_of_decodeLatest h
    obtain ⟨hanswers, hcalls⟩ := hanswers.of_recorded
    exact ⟨exchanges, hfeeding, hanswers, hcalls, hresult⟩
  · rintro ⟨exchanges, hfeeding, hanswers, rfl, rfl⟩
    exact ⟨exchanges.length, decodeLatest_of_feeding hfeeding hanswers (Nat.le_refl _),
      decodeLatest_of_feeding hfeeding (hanswers.recorded []) (Nat.le_refl _)⟩
  · rintro ⟨limit, result, h⟩ s₁ hcomes
    exact runsDry_of_decodeLatest h hcomes
  · obtain ⟨exchanges, s', hfeeding, hanswers⟩ := exists_feeding hdry
    exact ⟨exchanges.length, _, decodeLatest_of_feeding hfeeding hanswers (Nat.le_refl _)⟩

@[simp] lemma offer_not_mem_takingOut (answer : Except ε (Flow Unit)) (pictures : List φ)
    (last : Dry ε) :
    Exchange.offer packet answer ∉ takingOut pictures last := by
  simp [takingOut]

/-- A packet for which an answer other than the end is given was accepted exactly if no offer of it
was answered by the end.  If one was, then it was the second offer and the last call, and the answer
is the newest of the pictures that were waiting when the packet was refused. -/
theorem accepted_unless_ended {answer : Flow φ}
    (h : d.decodeLatest limit packet s = some (.ok answer, s')) (hanswer : answer ≠ .eof) :
    ∃ exchanges, d.Answers s exchanges s'
      ∧ (∃ limit, d.recorded.decodeLatest limit packet (s, [])
          = some (.ok answer, s', exchanges.map Exchange.call))
      ∧ (.offer packet (.ok (.ready ())) ∈ exchanges ↔ .offer packet (.ok .eof) ∉ exchanges)
      ∧ (.offer packet (.ok .eof) ∈ exchanges →
          ∃ waiting picture ended,
            exchanges = .offer packet (.ok .again)
                :: takingOut (waiting ++ [picture]) (.ofEnd ended) ++ [.offer packet (.ok .eof)]
              ∧ answer = .ready picture) := by
  obtain ⟨exchanges, hfeeding, hanswers, hresult⟩ := feeding_of_decodeLatest h
  have hcalls := decodeLatest_of_feeding hfeeding (hanswers.recorded []) (Nat.le_refl _)
  rw [← hresult] at hcalls
  refine ⟨exchanges, hanswers, ⟨_, hcalls⟩, ?_⟩
  cases hfeeding with
  | failed e => cases hresult
  | ended => exact absurd (Except.ok.inj hresult) hanswer
  | accepted pictures last => simp
  | broken pictures e =>
    rw [outcome_broken] at hresult
    cases hresult
  | offeredAgain pictures ended second hlast =>
    rw [outcome_offeredAgain] at hresult
    rcases second with e | (_ | _ | _)
    · cases hresult
    · simp
    · cases hresult
    · refine ⟨by simp, fun _ => ?_⟩
      -- the answer is not the end, so a picture was waiting
      rcases List.eq_nil_or_concat pictures with rfl | ⟨waiting, picture, rfl⟩
      · exact absurd (Except.ok.inj hresult) hanswer
      · refine ⟨waiting, picture, ended, by rw [List.concat_eq_append], ?_⟩
        rw [List.concat_eq_append, List.getLast?_concat] at hresult
        exact Except.ok.inj hresult
  | acceptedLate pictures rest last => simp

/-- The packet is refused while two pictures are waiting, and accepted when the decoder has answered
that it has ended. -/
theorem accepted_unless_ended_late :
    let script : DecoderScript UInt8 String :=
      { sends := [.ok .again, .ok (.ready ())]
        receives := [.ok (.ready 7), .ok (.ready 8), .ok .eof] }
    scriptedDecoder.decodeLatest 3 [1] script = some (.ok (.ready 8), {})
      ∧ (Flow.ready 8 : Flow UInt8) ≠ .eof
      ∧ ∃ exchanges, scriptedDecoder.Answers script exchanges {}
        ∧ (.offer [1] (.ok (.ready ())) ∈ exchanges ↔ .offer [1] (.ok .eof) ∉ exchanges) := by
  intro script
  have h : scriptedDecoder.decodeLatest 3 [1] script = some (.ok (.ready 8), {}) := rfl
  obtain ⟨exchanges, hanswers, -, haccepted, -⟩ := accepted_unless_ended h (by decide)
  exact ⟨h, by decide, exchanges, hanswers, haccepted⟩

/-- The packet is refused while a picture is waiting; when that is taken out the decoder has ended,
and the picture is the answer.  The packet was not accepted, and its feeding is no error. -/
theorem passed_over_at_end :
    let script : DecoderScript UInt8 String :=
      { sends := [.ok .again, .ok .eof], receives := [.ok (.ready 7), .ok .again] }
    let exchanges : List (Exchange UInt8 String) :=
      [.offer [1] (.ok .again), .request (.ok (.ready 7)), .request (.ok .again),
        .offer [1] (.ok .eof)]
    scriptedDecoder.decodeLatest 3 [1] script = some (.ok (.ready 7), {})
      ∧ scriptedDecoder.recorded.decodeLatest 3 [1] (script, [])
        = some (.ok (.ready 7), {}, exchanges.map Exchange.call)
      ∧ scriptedDecoder.Answers script exchanges {}
      ∧ .offer [1] (.ok (.ready ())) ∉ exchanges := by
  refine ⟨rfl, rfl, ?_, by simp⟩
  exact .offer rfl (.request rfl (.request rfl (.offer rfl (.nil _))))

end QueueDecoder
end SipStills
