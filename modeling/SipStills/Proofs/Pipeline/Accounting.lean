/-
# The stills of an event are accounted for

An encoder makes a list of packets of a picture.  This file says what becomes of them: the outcome
of the event tells how many there were, the consumer gets all of them in their order or none, and
the counters of the dispatch grow by what the outcomes say.

To speak of the packets that were made, the encoder of `Registry.tallied` keeps a tally of them
beside the devices.  A pipeline over the tallied registry does what the pipeline over the registry
itself does; this is the relation `Tallying`, which every use of the pipeline keeps.

* `Tallying.accounts_handle`: for one event, the outcome, the tally, the deliveries and the dispatch
  agree (`Accounts`).
* `Tallying.balanced_tally`: for a run, the counters, the outcomes and the log of the consumer agree
  (`Balanced`); the consumer may be set at any point of the run.
-/
import Mathlib.Algebra.GroupWithZero.Nat
import SipStills.Proofs.Pipeline.Lives

namespace SipStills

open Pipeline (Handled)

/-- Devices together with a tally of what the encoder made: a list of packets for each picture that
it has encoded, the oldest first. -/
abbrev Tallied (δ : Type) := δ × List (List Packet)

variable {δ κ γ : Type}

/-- The decoder beside a tally. -/
def Decoder.besideTally (decoder : Decoder δ κ) : Decoder (Tallied δ) κ where
  codec := decoder.codec
  openContext d :=
    let r := decoder.openContext d.1
    (r.1, r.2, d.2)
  decode context packet d :=
    let r := decoder.decode context packet d.1
    (r.1, r.2.1, r.2.2, d.2)

/-- The encoder that keeps a tally of the packets that it makes. -/
def PictureEncoder.tallied (encoder : PictureEncoder δ) : PictureEncoder (Tallied δ) where
  name := encoder.name
  openFor params d :=
    let r := encoder.openFor params d.1
    (r.1.map fun run f d =>
      let made := run f d.1
      (made.1, made.2, d.2 ++ made.1.toList), r.2, d.2)

/-- The registry whose encoder keeps a tally. -/
def Registry.tallied (r : Registry δ κ) : Registry (Tallied δ) κ where
  decoders := r.decoders.map Decoder.besideTally
  encoder := r.encoder.map PictureEncoder.tallied

namespace Outcome

/-- The outcome says that stills were dispatched. -/
def IsDispatch : Outcome → Prop
  | .delivered _ _ | .discarded _ => True
  | _ => False

/-- The number of stills that reached the consumer. -/
def deliveredCount : Outcome → Nat
  | .delivered packets _ => packets
  | _ => 0

/-- The number of stills that were dropped. -/
def discardedCount : Outcome → Nat
  | .discarded packets => packets
  | _ => 0

end Outcome

/-- What is prepared of an event, beside what it adds to the tally: stills are all of the packets
that were made, and where there are none nothing was made. -/
inductive Tallies (tally : List (List Packet)) : Prepared → List (List Packet) → Prop where
  | settled {outcome : Outcome} (h : ¬ outcome.IsDispatch) : Tallies tally (.settled outcome) tally
  | stills (packets : List Packet) :
      Tallies tally (.stills (packets.map (·.data))) (tally ++ [packets])

namespace Registry

variable (r : Registry δ κ)

lemma decoder?_tallied (codec : CodecId) :
    r.tallied.decoder? codec = (r.decoder? codec).map Decoder.besideTally := by
  simp only [decoder?, tallied, List.find?_map]
  rfl

lemma encode_tallied (f : Frame) (d : Tallied δ) :
    ∃ tally, r.tallied.encode f d = ((r.encode f d.1).1, (r.encode f d.1).2, tally)
      ∧ Tallies d.2 (r.encode f d.1).1 tally := by
  cases hr : r.encoder with
  | none => exact ⟨d.2, by simp [encode, tallied, hr], by simpa [encode, hr] using .settled id⟩
  | some encoder =>
    rcases ho : encoder.openFor (.ofFrame f) d.1 with ⟨_ | run, devices⟩
    · refine ⟨d.2, ?_, ?_⟩
      · simp [encode, tallied, hr, PictureEncoder.tallied, ho]
      · simpa [encode, hr, ho] using .settled id
    · rcases hrun : run f devices with ⟨_ | packets, devices'⟩
      · refine ⟨d.2, ?_, ?_⟩
        · simp [encode, tallied, hr, PictureEncoder.tallied, ho, hrun]
        · simpa [encode, hr, ho, hrun] using .settled id
      · refine ⟨d.2 ++ [packets], ?_, ?_⟩
        · simp [encode, tallied, hr, PictureEncoder.tallied, ho, hrun]
        · simpa [encode, hr, ho, hrun] using .stills packets

lemma encodeDecoded_tallied (x : Decoded) (d : Tallied δ) :
    ∃ tally, r.tallied.encodeDecoded x d
        = ((r.encodeDecoded x d.1).1, (r.encodeDecoded x d.1).2, tally)
      ∧ Tallies d.2 (r.encodeDecoded x d.1).1 tally := by
  cases x with
  | picture f => exact r.encode_tallied f d
  | again | eof | failed => exact ⟨d.2, rfl, .settled id⟩

end Registry

namespace Pipeline

/-- A pipeline over the tallied registry stands where a pipeline over the registry stands. -/
structure Tallying (q : Pipeline (Tallied δ) κ γ) (p : Pipeline δ κ γ) : Prop where
  registry : q.registry = p.registry.tallied
  mode : q.mode = p.mode
  dispatch : q.dispatch = p.dispatch
  sessions : q.sessions = p.sessions
  devices : q.devices.1 = p.devices

/-- The tallied pipeline, with nothing in the tally. -/
def tallied (p : Pipeline δ κ γ) : Pipeline (Tallied δ) κ γ where
  registry := p.registry.tallied
  mode := p.mode
  dispatch := p.dispatch
  sessions := p.sessions
  devices := (p.devices, [])

lemma tallying_tallied (p : Pipeline δ κ γ) : Tallying p.tallied p := ⟨rfl, rfl, rfl, rfl, rfl⟩

namespace Tallying

variable {q : Pipeline (Tallied δ) κ γ} {p : Pipeline δ κ γ}

lemma sessionFor (h : Tallying q p) (decoder : Decoder δ κ) (callee : String) (codec : CodecId) :
    q.sessionFor decoder.besideTally callee codec
      = ((p.sessionFor decoder callee codec).1, (p.sessionFor decoder callee codec).2,
          q.devices.2) := by
  obtain ⟨s, hs, hcodec⟩ | hneed := p.get?_or_needsOpen callee codec
  · have hs' : q.sessions.get? callee = some s := by rw [h.sessions, hs]
    rw [sessionFor_of_get? hs hcodec, sessionFor_of_get? hs' hcodec, ← h.devices]
  · have hneed' : q.NeedsOpen callee codec := by
      intro s hs
      exact hneed s (h.sessions ▸ hs)
    rw [sessionFor_of_needsOpen hneed, sessionFor_of_needsOpen hneed', ← h.devices]
    rfl

lemma prepareInSession (h : Tallying q p) (decoder : Decoder δ κ) (e : DecodeEvent) :
    (q.prepareInSession decoder.besideTally e).1 = (p.prepareInSession decoder e).1
      ∧ Tallying (q.prepareInSession decoder.besideTally e).2 (p.prepareInSession decoder e).2
      ∧ Tallies q.devices.2 (p.prepareInSession decoder e).1
          (q.prepareInSession decoder.besideTally e).2.devices.2 := by
  have hfor := h.sessionFor decoder e.callee e.codec
  rcases hp : p.sessionFor decoder e.callee e.codec with ⟨_ | s, devices⟩
  · rw [hp] at hfor
    rw [prepareInSession_none hp, prepareInSession_none hfor]
    exact ⟨rfl, ⟨h.registry, h.mode, h.dispatch, h.sessions, rfl⟩, .settled id⟩
  · rw [hp] at hfor
    obtain ⟨tally, hencode, htallies⟩ := p.registry.encodeDecoded_tallied
      (decoder.decode s.context e.payload devices).1
      ((decoder.decode s.context e.payload devices).2.2, q.devices.2)
    rw [prepareInSession_some hp, prepareInSession_some hfor, h.registry]
    simp only [Decoder.besideTally, hencode]
    exact ⟨trivial, ⟨rfl, h.mode, h.dispatch, by simp only [h.sessions], rfl⟩, htallies⟩

lemma prepareFresh (h : Tallying q p) (decoder : Decoder δ κ) (payload : Bytes) :
    (q.prepareFresh decoder.besideTally payload).1 = (p.prepareFresh decoder payload).1
      ∧ Tallying (q.prepareFresh decoder.besideTally payload).2 (p.prepareFresh decoder payload).2
      ∧ Tallies q.devices.2 (p.prepareFresh decoder payload).1
          (q.prepareFresh decoder.besideTally payload).2.devices.2 := by
  rcases ho : decoder.openContext p.devices with ⟨_ | context, devices⟩
  · simp only [Pipeline.prepareFresh, Decoder.besideTally, h.devices, ho]
    exact ⟨trivial, ⟨h.registry, h.mode, h.dispatch, h.sessions, rfl⟩, .settled id⟩
  · obtain ⟨tally, hencode, htallies⟩ := p.registry.encodeDecoded_tallied
      (decoder.decode context payload devices).1
      ((decoder.decode context payload devices).2.2, q.devices.2)
    simp only [Pipeline.prepareFresh, Decoder.besideTally, h.devices, ho, h.registry, hencode]
    exact ⟨trivial, ⟨rfl, h.mode, h.dispatch, h.sessions, rfl⟩, htallies⟩

/-- The tally changes nothing about what is prepared, and it tells which packets were made. -/
lemma prepare (h : Tallying q p) (e : DecodeEvent) :
    (q.prepare e).1 = (p.prepare e).1 ∧ Tallying (q.prepare e).2 (p.prepare e).2
      ∧ Tallies q.devices.2 (p.prepare e).1 (q.prepare e).2.devices.2 := by
  simp only [Pipeline.prepare, h.registry, Registry.decoder?_tallied, h.mode]
  cases p.registry.decoder? e.codec with
  | none => exact ⟨rfl, h, .settled id⟩
  | some decoder =>
    cases p.mode with
    | perEvent => exact h.prepareFresh decoder e.payload
    | perSession => exact h.prepareInSession decoder e

end Tallying
end Pipeline

/-! ### One event -/

/-- The dispatch after so many stills were offered. -/
def Dispatch.counted (d : Dispatch γ) (stills : Nat) : Dispatch γ :=
  match d.consumer with
  | some _ => { d with delivered := d.delivered + stills }
  | none => { d with discarded := d.discarded + stills }

lemma Dispatch.offerAll_snd (d : Dispatch γ) (callee : String) (data : List Bytes) :
    (d.offerAll callee data).2 = d.counted data.length := by
  induction data generalizing d with
  | nil =>
    obtain ⟨consumer, active, delivered, discarded⟩ := d
    cases consumer <;> rfl
  | cons still rest ih =>
    cases hc : d.consumer with
    | none =>
      simp [offerAll, offer, ih, hc, counted, countDiscarded, Nat.add_comm, Nat.add_left_comm]
    | some consumer =>
      simp [offerAll, offer, ih, hc, counted, countDelivered, Nat.add_comm, Nat.add_left_comm]

/-- What the outcome of an event says about the packets that the encoder made of it: `made` is what
the event has added to the tally, and `d` and `d'` are the dispatch before and after the event.

* Stills that were delivered are all the packets of one picture, in their order; so many, and of so
  many bytes, reached the consumer, each in the name of the callee.
* Stills that were dropped are all the packets of one picture, and there are some; there is no
  consumer, and nothing reached one.
* Otherwise nothing was made, and nothing was dispatched. -/
def Accounts (d : Dispatch γ) (callee : String) (made : List (List Packet)) (h : Handled γ)
    (d' : Dispatch γ) : Prop :=
  match h.outcome with
  | .delivered packets bytes =>
    ∃ stills, made = [stills] ∧ stills.length = packets ∧ (stills.map Packet.size).sum = bytes
      ∧ h.deliveries.map (·.data) = stills.map (·.data)
      ∧ (∀ x ∈ h.deliveries, x.callee = callee ∧ d.consumer = some x.consumer)
      ∧ d' = { d with delivered := d.delivered + packets }
  | .discarded packets =>
    ∃ stills, made = [stills] ∧ stills.length = packets ∧ 0 < packets
      ∧ d.consumer = none ∧ h.deliveries = []
      ∧ d' = { d with discarded := d.discarded + packets }
  | _ => made = [] ∧ h.deliveries = [] ∧ d' = d

lemma accounts_of_not_isDispatch {outcome : Outcome} (h : ¬ outcome.IsDispatch) (d : Dispatch γ)
    (callee : String) : Accounts d callee [] ⟨outcome, []⟩ d := by
  cases outcome with
  | delivered packets bytes => exact absurd trivial h
  | discarded packets => exact absurd trivial h
  | unknownCodec | noEncoder | openFailed | needMoreData | endOfStream | decodeFailed
  | encodeFailed => exact ⟨rfl, rfl, rfl⟩

lemma length_flatMap_deliveriesTo (consumer : γ) (callee : String) (stills : List Packet) :
    ((deliveriesTo (some consumer) callee (stills.map (·.data))).flatMap (·.data)).length
      = (stills.map Packet.size).sum := by
  rw [List.length_flatMap]
  simp only [deliveriesTo, Option.elim_some, List.map_map]
  rfl

namespace Pipeline

/-- Stills that are dispatched are accounted for, whether there is a consumer or not. -/
lemma accounts_stills (d : Dispatch γ) (callee : String) (stills : List Packet) :
    Accounts d callee [stills] (handledAs d.consumer callee (.stills (stills.map (·.data))))
      (d.counted stills.length) := by
  cases hc : d.consumer with
  | some consumer =>
    have hlen : (deliveriesTo (some consumer) callee (stills.map (·.data))).length
        = stills.length := by
      simp [deliveriesTo]
    -- all of the packets were delivered, so that the outcome cannot be that they were dropped
    have houtcome : outcomeOf (stills.map (·.data)).length
          (deliveriesTo (some consumer) callee (stills.map (·.data)))
        = .delivered stills.length (stills.map Packet.size).sum := by
      rw [outcomeOf, hlen, List.length_map, if_neg (by omega), length_flatMap_deliveriesTo]
    rw [handledAs, houtcome]
    refine ⟨stills, rfl, rfl, rfl, ?_, ?_, ?_⟩
    · simp [deliveriesTo, Function.comp_def]
    · intro x hx
      simp only [deliveriesTo, Option.elim_some, List.mem_map] at hx
      obtain ⟨data, -, rfl⟩ := hx
      exact ⟨rfl, hc⟩
    · simp only [Dispatch.counted, hc]
  | none =>
    cases stills with
    | nil =>
      -- no packet was made, which counts as a delivery of none
      simp [Accounts, handledAs, outcomeOf, deliveriesTo, Dispatch.counted, hc]
    | cons still rest =>
      simp [Accounts, handledAs, outcomeOf, deliveriesTo, Dispatch.counted, hc]

namespace Tallying

variable {q : Pipeline (Tallied δ) κ γ} {p : Pipeline δ κ γ}

lemma deliver (h : Tallying q p) (callee : String) (prepared : Prepared) :
    (q.deliver callee prepared).1 = (p.deliver callee prepared).1
      ∧ Tallying (q.deliver callee prepared).2 (p.deliver callee prepared).2 := by
  cases prepared with
  | settled outcome => exact ⟨rfl, h⟩
  | stills data =>
    simp only [Pipeline.deliver, h.dispatch]
    exact ⟨trivial, h.registry, h.mode, rfl, h.sessions, h.devices⟩

/-- The tally changes nothing about an event. -/
lemma handle (h : Tallying q p) (e : DecodeEvent) :
    (q.handle e).1 = (p.handle e).1 ∧ Tallying (q.handle e).2 (p.handle e).2 := by
  obtain ⟨hprepared, hnext, -⟩ := h.prepare e
  rw [handle_eq_deliver, handle_eq_deliver, hprepared]
  exact hnext.deliver e.callee _

/-- An event is accounted for: what it adds to the tally, its outcome, what reached the consumer and
what the dispatch has counted agree. -/
lemma accounts_handle (h : Tallying q p) (hpage : q.devices.2 = []) (e : DecodeEvent) :
    Accounts p.dispatch e.callee (q.handle e).2.devices.2 (p.handle e).1
      (p.handle e).2.dispatch := by
  obtain ⟨-, -, htallies⟩ := h.prepare e
  rw [devices_handle, handle_eq_deliver, deliver_fst, dispatch_prepare]
  rw [hpage] at htallies
  generalize (q.prepare e).2.devices.2 = tally at htallies ⊢
  cases hprepared : (p.prepare e).1 with
  | settled outcome =>
    rw [hprepared] at htallies
    cases htallies with
    | settled houtcome =>
      simp only [handledAs, Pipeline.deliver, dispatch_prepare]
      exact accounts_of_not_isDispatch houtcome p.dispatch e.callee
  | stills data =>
    rw [hprepared] at htallies
    cases htallies with
    | stills packets =>
      have haccounts := accounts_stills p.dispatch e.callee packets
      simp only [Pipeline.deliver, dispatch_prepare, Dispatch.offerAll_snd, List.length_map]
      exact haccounts

end Tallying
end Pipeline

/-! ### Runs -/

/-- A use of a pipeline. -/
inductive PipelineOp (γ : Type) where
  /-- An event is handled, or a session is ended. -/
  | session (op : SessionOp)
  /-- The consumer is set, which may be refused. -/
  | setConsumer (consumer : γ)
  /-- The consumer is fixed. -/
  | activate

namespace Pipeline

/-- One use; where an event is handled, what is known about it. -/
def use (p : Pipeline δ κ γ) : PipelineOp γ → Option (DecodeEvent × Handled γ) × Pipeline δ κ γ
  | .session (.handle e) => (some (e, (p.handle e).1), (p.handle e).2)
  | .session (.endSession callee) => (none, (p.endSession callee).2)
  | .session .clearSessions => (none, p.clearSessions)
  | .setConsumer consumer =>
    match p.dispatch.set consumer with
    | .error _ => (none, p)
    | .ok dispatch => (none, { p with dispatch })
  | .activate => (none, { p with dispatch := p.dispatch.activate })

/-- Uses one after the other; what is known about the events that were handled. -/
def useAll (p : Pipeline δ κ γ) :
    List (PipelineOp γ) → List (DecodeEvent × Handled γ) × Pipeline δ κ γ
  | [] => ([], p)
  | op :: ops =>
    let r := p.use op
    let rest := useAll r.2 ops
    (r.1.toList ++ rest.1, rest.2)

/-- The pipeline with an empty tally. -/
def newTally (q : Pipeline (Tallied δ) κ γ) : Pipeline (Tallied δ) κ γ :=
  { q with devices := (q.devices.1, []) }

end Pipeline

/-- An event that was handled, and the packets that were made of it. -/
structure TallyEntry (γ : Type) where
  /-- The event. -/
  event : DecodeEvent
  /-- What is known about it. -/
  handled : Handled γ
  /-- What it has added to the tally. -/
  made : List (List Packet)

/-- The packets that are said to have reached the consumer, in the name of the callee. -/
def TallyEntry.toConsumer (x : TallyEntry γ) : List (String × Bytes) :=
  match x.handled.outcome with
  | .delivered _ _ => x.made.flatten.map fun packet => (x.event.callee, packet.data)
  | _ => []

/-- Uses one after the other, with the packets that were made of each event. -/
def Pipeline.tally (q : Pipeline (Tallied δ) κ γ) :
    List (PipelineOp γ) → List (TallyEntry γ) × Pipeline (Tallied δ) κ γ
  | [] => ([], q)
  | op :: ops =>
    let r := q.newTally.use op
    let rest := tally r.2 ops
    ((r.1.map fun x => ⟨x.1, x.2, r.2.devices.2⟩).toList ++ rest.1, rest.2)

/-- The entries of a run account for what the dispatch has counted and for what has reached the
consumer: `d` and `d'` are the dispatch before and after the run. -/
structure Balanced (d : Dispatch γ) (entries : List (TallyEntry γ)) (d' : Dispatch γ) : Prop where
  delivered : d'.delivered
    = d.delivered + (entries.map (·.handled.outcome.deliveredCount)).sum
  discarded : d'.discarded
    = d.discarded + (entries.map (·.handled.outcome.discardedCount)).sum
  received : (entries.flatMap (·.handled.deliveries)).map (fun x => (x.callee, x.data))
    = entries.flatMap TallyEntry.toConsumer
  consumer : ∀ x ∈ entries.flatMap (·.handled.deliveries), d'.consumer = some x.consumer
  kept : ∀ consumer, d.consumer = some consumer → d'.consumer = some consumer

namespace Balanced

variable {d d' d'' : Dispatch γ}

lemma nil (hdelivered : d'.delivered = d.delivered) (hdiscarded : d'.discarded = d.discarded)
    (hkept : ∀ consumer, d.consumer = some consumer → d'.consumer = some consumer) :
    Balanced d [] d' where
  delivered := by simpa using hdelivered
  discarded := by simpa using hdiscarded
  received := rfl
  consumer x hx := absurd hx (by simp)
  kept := hkept

/-- An event that is accounted for is balanced. -/
lemma of_accounts {x : TallyEntry γ} (h : Accounts d x.event.callee x.made x.handled d') :
    Balanced d [x] d' := by
  obtain ⟨e, ⟨outcome, deliveries⟩, made⟩ := x
  cases outcome with
  | delivered packets bytes =>
    obtain ⟨stills, hmade, -, -, hdata, hto, rfl⟩ := h
    subst hmade
    refine ⟨by simp [Outcome.deliveredCount], by simp [Outcome.discardedCount], ?_, ?_, ?_⟩
    · have hpairs : deliveries.map (fun x => (x.callee, x.data))
          = (deliveries.map (·.data)).map fun data => (e.callee, data) := by
        rw [List.map_map]
        exact List.map_congr_left fun x hx => by rw [(hto x hx).1]; rfl
      simp only [List.flatMap_cons, List.flatMap_nil, List.append_nil, TallyEntry.toConsumer,
        List.flatten_cons, List.flatten_nil, hpairs, hdata, List.map_map]
      rfl
    · intro x hx
      exact (hto x (by simpa using hx)).2
    · exact fun consumer hc => hc
  | discarded packets =>
    obtain ⟨stills, -, -, -, -, hnone, rfl⟩ := h
    have hnone : deliveries = [] := hnone
    subst hnone
    exact ⟨by simp [Outcome.deliveredCount], by simp [Outcome.discardedCount],
      by simp [TallyEntry.toConsumer], fun x hx => absurd hx (by simp), fun consumer hc => hc⟩
  | unknownCodec | noEncoder | openFailed | needMoreData | endOfStream | decodeFailed
  | encodeFailed =>
    obtain ⟨-, hnone, rfl⟩ := h
    have hnone : deliveries = [] := hnone
    subst hnone
    exact ⟨by simp [Outcome.deliveredCount], by simp [Outcome.discardedCount],
      by simp [TallyEntry.toConsumer], fun x hx => absurd hx (by simp), fun consumer hc => hc⟩

/-- Runs that are balanced are balanced one after the other. -/
lemma append {xs ys : List (TallyEntry γ)} (h : Balanced d xs d') (h' : Balanced d' ys d'') :
    Balanced d (xs ++ ys) d'' where
  delivered := by rw [h'.delivered, h.delivered, List.map_append, List.sum_append]; omega
  discarded := by rw [h'.discarded, h.discarded, List.map_append, List.sum_append]; omega
  received := by
    rw [List.flatMap_append, List.map_append, h.received, h'.received, List.flatMap_append]
  consumer x hx := by
    rw [List.flatMap_append, List.mem_append] at hx
    rcases hx with hx | hx
    · exact h'.kept _ (h.consumer x hx)
    · exact h'.consumer x hx
  kept consumer hc := h'.kept consumer (h.kept consumer hc)

end Balanced

/-- A consumer that is set stays, and nothing is counted. -/
lemma Dispatch.balanced_set {d d' : Dispatch γ} {consumer : γ} (h : d.set consumer = .ok d') :
    Balanced d [] d' := by
  unfold Dispatch.set at h
  split at h
  · exact absurd h (by simp)
  · split at h
    · exact absurd h (by simp)
    · rename_i hnone
      obtain rfl := Except.ok.inj h
      exact .nil rfl rfl fun c hc => absurd (by simp [hc]) hnone

namespace Pipeline.Tallying

variable {q : Pipeline (Tallied δ) κ γ} {p : Pipeline δ κ γ}

lemma newTally (h : Tallying q p) : Tallying q.newTally p :=
  ⟨h.registry, h.mode, h.dispatch, h.sessions, h.devices⟩

/-- Every use keeps the tallied pipeline beside the pipeline itself, and is balanced. -/
lemma use (h : Tallying q p) (hpage : q.devices.2 = []) (op : PipelineOp γ) :
    (q.use op).1 = (p.use op).1 ∧ Tallying (q.use op).2 (p.use op).2
      ∧ Balanced p.dispatch
          ((q.use op).1.map fun x => (⟨x.1, x.2, (q.use op).2.devices.2⟩ : TallyEntry γ)).toList
          (p.use op).2.dispatch := by
  cases op with
  | session op =>
    cases op with
    | handle e =>
      obtain ⟨hhandled, hnext⟩ := h.handle e
      have haccounts := h.accounts_handle hpage e
      simp only [Pipeline.use, hhandled, Option.map_some, Option.toList_some]
      exact ⟨trivial, hnext, .of_accounts haccounts⟩
    | endSession callee =>
      refine ⟨rfl, ⟨h.registry, h.mode, h.dispatch, ?_, h.devices⟩, .nil rfl rfl fun _ hc => hc⟩
      simp only [Pipeline.use, endSession, h.sessions]
    | clearSessions =>
      exact ⟨rfl, ⟨h.registry, h.mode, h.dispatch, rfl, h.devices⟩, .nil rfl rfl fun _ hc => hc⟩
  | setConsumer consumer =>
    simp only [Pipeline.use, h.dispatch]
    cases hset : p.dispatch.set consumer with
    | error fault => exact ⟨rfl, h, .nil rfl rfl fun _ hc => hc⟩
    | ok dispatch =>
      exact ⟨rfl, ⟨h.registry, h.mode, rfl, h.sessions, h.devices⟩, Dispatch.balanced_set hset⟩
  | activate =>
    refine ⟨rfl, ⟨h.registry, h.mode, ?_, h.sessions, h.devices⟩, .nil rfl rfl fun _ hc => hc⟩
    simp only [Pipeline.use, h.dispatch]

/-- Every run is balanced. -/
lemma balanced_tally (h : Tallying q p) (ops : List (PipelineOp γ)) :
    (q.tally ops).1.map (fun x => (x.event, x.handled)) = (p.useAll ops).1
      ∧ Balanced p.dispatch (q.tally ops).1 (p.useAll ops).2.dispatch := by
  induction ops generalizing q p with
  | nil => exact ⟨rfl, .nil rfl rfl fun _ hc => hc⟩
  | cons op ops ih =>
    obtain ⟨hused, hnext, hbalanced⟩ := h.newTally.use rfl op
    obtain ⟨hrest, hbalanced'⟩ := ih hnext
    refine ⟨?_, hbalanced.append hbalanced'⟩
    simp only [Pipeline.tally, Pipeline.useAll, List.map_append, hrest, hused]
    cases (p.use op).1 <;> rfl

end Pipeline.Tallying

/-- Stills are accounted for, whatever the registry, the decode mode and the sessions are.  The
outcome of an event says how many packets the encoder made of it, and that they all reached the
consumer in their order, or were all dropped for want of one, or that nothing was dispatched.  Over
a run, in which the consumer may be set at any point, the dispatch has counted what the outcomes
say, and what the consumer has received are the packets of the delivered events, in the order of
the events. -/
theorem stills_accounted_for (p : Pipeline δ κ γ) :
    (∀ e, (p.tallied.handle e).1 = (p.handle e).1
        ∧ Accounts p.dispatch e.callee (p.tallied.handle e).2.devices.2 (p.handle e).1
          (p.handle e).2.dispatch)
      ∧ ∀ ops, (p.tallied.tally ops).1.map (fun x => (x.event, x.handled)) = (p.useAll ops).1
        ∧ Balanced p.dispatch (p.tallied.tally ops).1 (p.useAll ops).2.dispatch := by
  have htallying := p.tallying_tallied
  refine ⟨fun e => ⟨?_, ?_⟩, fun ops => htallying.balanced_tally ops⟩
  · exact (htallying.handle e).1
  · exact htallying.accounts_handle rfl e

end SipStills
