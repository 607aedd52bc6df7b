/-
# Pipelines that keep a record of their decoders

To say on which context a decoder works, and what that context has been fed before, the
contexts have to carry their past and the calls have to be written down.  Since decoders,
contexts and devices are parameters of a pipeline, no second pipeline is needed for that: in
`Registry.recorded` every decoder writes its calls into a book that is kept with the devices, and
its contexts are `Traced`.

A pipeline over the recorded registry does what the pipeline over the registry itself does.  This
is the relation `Recording`, which every operation keeps (`Recording.handle`).
-/
import SipStills.Proofs.Pipeline.Steps

namespace SipStills

/-- A decode context together with its past. -/
structure Traced (δ κ : Type) where
  /-- The decoder that opened it. -/
  opener : Decoder δ κ
  /-- The packets that it was fed, the oldest first. -/
  fed : List Bytes
  /-- The context itself. -/
  context : κ

/-- A call made to a decoder. -/
inductive ContextCall (δ κ : Type) where
  /-- The decoder was asked for a context. -/
  | opened (decoder : Decoder δ κ) (succeeded : Bool)
  /-- The decoder was given a packet and a context, which `opener` had opened and which had been
  fed the packets `fed` before. -/
  | decoded (decoder opener : Decoder δ κ) (fed : List Bytes) (packet : Bytes)

/-- Devices together with the book of the calls made to the decoders, the oldest first. -/
abbrev Booked (δ κ : Type) := δ × List (ContextCall δ κ)

variable {δ κ γ : Type}

/-- The decoder that writes down its calls. -/
def Decoder.recorded (decoder : Decoder δ κ) : Decoder (Booked δ κ) (Traced δ κ) where
  codec := decoder.codec
  openContext d :=
    let r := decoder.openContext d.1
    (r.1.map fun context => ⟨decoder, [], context⟩,
      r.2, d.2 ++ [.opened decoder r.1.isSome])
  decode t packet d :=
    let r := decoder.decode t.context packet d.1
    (r.1, ⟨t.opener, t.fed ++ [packet], r.2.1⟩,
      r.2.2, d.2 ++ [.decoded decoder t.opener t.fed packet])

lemma Decoder.openContext_recorded (decoder : Decoder δ κ) (d : Booked δ κ) :
    decoder.recorded.openContext d
      = ((decoder.openContext d.1).1.map fun context => ⟨decoder, [], context⟩,
          (decoder.openContext d.1).2,
          d.2 ++ [.opened decoder (decoder.openContext d.1).1.isSome]) := rfl

lemma Decoder.decode_recorded (decoder : Decoder δ κ) (t : Traced δ κ) (packet : Bytes)
    (d : Booked δ κ) :
    decoder.recorded.decode t packet d
      = ((decoder.decode t.context packet d.1).1,
          ⟨t.opener, t.fed ++ [packet], (decoder.decode t.context packet d.1).2.1⟩,
          (decoder.decode t.context packet d.1).2.2,
          d.2 ++ [.decoded decoder t.opener t.fed packet]) := rfl

/-- The encoder beside a book. -/
def PictureEncoder.besideBook (encoder : PictureEncoder δ) : PictureEncoder (Booked δ κ) where
  name := encoder.name
  openFor params d :=
    let r := encoder.openFor params d.1
    (r.1.map fun run f d => ((run f d.1).1, (run f d.1).2, d.2), r.2, d.2)

namespace Registry

/-- The registry whose decoders write down their calls. -/
def recorded (r : Registry δ κ) : Registry (Booked δ κ) (Traced δ κ) where
  decoders := r.decoders.map Decoder.recorded
  encoder := r.encoder.map PictureEncoder.besideBook

lemma decoder?_recorded (r : Registry δ κ) (codec : CodecId) :
    r.recorded.decoder? codec = (r.decoder? codec).map Decoder.recorded := by
  simp only [decoder?, recorded, List.find?_map]
  rfl

/-- Encoding makes the same stills and leaves the book alone. -/
lemma encode_recorded (r : Registry δ κ) (f : Frame) (d : Booked δ κ) :
    r.recorded.encode f d = ((r.encode f d.1).1, (r.encode f d.1).2, d.2) := by
  cases hr : r.encoder with
  | none => simp [encode, recorded, hr]
  | some encoder =>
    rcases ho : encoder.openFor (.ofFrame f) d.1 with ⟨_ | run, devices⟩
    · simp [encode, recorded, hr, PictureEncoder.besideBook, ho]
    · rcases hrun : run f devices with ⟨_ | packets, devices'⟩ <;>
        simp [encode, recorded, hr, PictureEncoder.besideBook, ho, hrun]

lemma encodeDecoded_recorded (r : Registry δ κ) (x : Decoded) (d : Booked δ κ) :
    r.recorded.encodeDecoded x d
      = ((r.encodeDecoded x d.1).1, (r.encodeDecoded x d.1).2, d.2) := by
  cases x with
  | picture f => exact encode_recorded r f d
  | again | eof | failed => rfl

end Registry

/-- The session without the past of its context. -/
def Session.plain (s : Session (Traced δ κ)) : Session κ := ⟨s.codec, s.context.context⟩

namespace SessionTable

/-- The table without the past of its contexts. -/
def plain (t : SessionTable (Traced δ κ)) : SessionTable κ :=
  ⟨t.entries.map fun x => (x.1, x.2.plain)⟩

lemma get?_plain (t : SessionTable (Traced δ κ)) (callee : String) :
    t.plain.get? callee = (t.get? callee).map Session.plain := by
  simp only [get?, plain, List.find?_map, Option.map_map]
  rfl

lemma plain_erase (t : SessionTable (Traced δ κ)) (callee : String) :
    (t.erase callee).plain = t.plain.erase callee := by
  simp only [erase, plain, List.filter_map]
  rfl

lemma plain_put (t : SessionTable (Traced δ κ)) (callee : String) (s : Session (Traced δ κ)) :
    (t.put callee s).plain = t.plain.put callee s.plain := by
  simp only [put, ← plain_erase]
  rfl

end SessionTable

namespace Pipeline

lemma plain_sessionsAfter (t : SessionTable (Traced δ κ)) (callee : String)
    (s : Session (Traced δ κ)) (prepared : Prepared) :
    (sessionsAfter t callee s prepared).plain
      = sessionsAfter t.plain callee s.plain prepared := by
  unfold sessionsAfter
  split
  · exact t.plain_erase callee
  · exact t.plain_put callee s

/-- A pipeline over the recorded registry stands where a pipeline over the registry stands. -/
structure Recording (q : Pipeline (Booked δ κ) (Traced δ κ) γ) (p : Pipeline δ κ γ) : Prop where
  registry : q.registry = p.registry.recorded
  mode : q.mode = p.mode
  dispatch : q.dispatch = p.dispatch
  sessions : q.sessions.plain = p.sessions
  devices : q.devices.1 = p.devices

/-- The recorded pipeline at its start: no session, and nothing in the book. -/
def recorded (p : Pipeline δ κ γ) : Pipeline (Booked δ κ) (Traced δ κ) γ where
  registry := p.registry.recorded
  mode := p.mode
  dispatch := p.dispatch
  devices := (p.devices, [])

lemma recording_recorded {p : Pipeline δ κ γ} (h : p.sessions = {}) : Recording p.recorded p :=
  ⟨rfl, rfl, rfl, h.symm, rfl⟩

namespace Recording

variable {q : Pipeline (Booked δ κ) (Traced δ κ) γ} {p : Pipeline δ κ γ}

lemma get? (h : Recording q p) (callee : String) :
    p.sessions.get? callee = (q.sessions.get? callee).map Session.plain := by
  rw [← h.sessions, SessionTable.get?_plain]

lemma needsOpen (h : Recording q p) {callee : String} {codec : CodecId}
    (hneed : q.NeedsOpen callee codec) : p.NeedsOpen callee codec := by
  intro s hs
  rw [h.get? callee] at hs
  obtain ⟨t, ht, rfl⟩ := Option.map_eq_some_iff.1 hs
  exact hneed t ht

/-- The session of an event is the same, up to the past of its context. -/
lemma sessionFor (h : Recording q p) (decoder : Decoder δ κ) (callee : String) (codec : CodecId) :
    p.sessionFor decoder callee codec
      = ((q.sessionFor decoder.recorded callee codec).1.map Session.plain,
          (q.sessionFor decoder.recorded callee codec).2.1) := by
  obtain ⟨s, hs, hcodec⟩ | hneed := q.get?_or_needsOpen callee codec
  · -- the recorded table has it exactly if the plain one has it
    have hs' : p.sessions.get? callee = some s.plain := by rw [h.get? callee, hs]; rfl
    rw [sessionFor_of_get? hs hcodec, sessionFor_of_get? hs' hcodec, h.devices]
    rfl
  · -- both ask the decoder, with the same devices
    rw [sessionFor_of_needsOpen hneed, sessionFor_of_needsOpen (h.needsOpen hneed)]
    simp only [Decoder.recorded, h.devices, Option.map_map]
    rfl

lemma prepareInSession (h : Recording q p) (decoder : Decoder δ κ) (e : DecodeEvent) :
    (q.prepareInSession decoder.recorded e).1 = (p.prepareInSession decoder e).1
      ∧ Recording (q.prepareInSession decoder.recorded e).2 (p.prepareInSession decoder e).2 := by
  have hfor := h.sessionFor decoder e.callee e.codec
  rcases hq : q.sessionFor decoder.recorded e.callee e.codec with ⟨_ | s, devices⟩
  · rw [hq] at hfor
    rw [prepareInSession_none hq, prepareInSession_none hfor]
    exact ⟨rfl, h.registry, h.mode, h.dispatch, h.sessions, rfl⟩
  · rw [hq] at hfor
    rw [prepareInSession_some hq, prepareInSession_some hfor, h.registry]
    simp only [Registry.encodeDecoded_recorded]
    refine ⟨rfl, rfl, h.mode, h.dispatch, ?_, rfl⟩
    rw [← h.sessions]
    exact plain_sessionsAfter _ _ _ _

lemma prepareFresh (h : Recording q p) (decoder : Decoder δ κ) (payload : Bytes) :
    (q.prepareFresh decoder.recorded payload).1 = (p.prepareFresh decoder payload).1
      ∧ Recording (q.prepareFresh decoder.recorded payload).2
          (p.prepareFresh decoder payload).2 := by
  rcases ho : decoder.openContext p.devices with ⟨_ | context, devices⟩
  · simp only [Pipeline.prepareFresh, Decoder.recorded, h.devices, ho]
    exact ⟨rfl, h.registry, h.mode, h.dispatch, h.sessions, rfl⟩
  · simp only [Pipeline.prepareFresh, Decoder.recorded, h.devices, ho, h.registry,
      Option.map_some, Registry.encodeDecoded_recorded]
    exact ⟨trivial, rfl, h.mode, h.dispatch, h.sessions, rfl⟩

lemma prepare (h : Recording q p) (e : DecodeEvent) :
    (q.prepare e).1 = (p.prepare e).1 ∧ Recording (q.prepare e).2 (p.prepare e).2 := by
  simp only [Pipeline.prepare, h.registry, Registry.decoder?_recorded, h.mode]
  cases p.registry.decoder? e.codec with
  | none => exact ⟨rfl, h⟩
  | some decoder =>
    cases p.mode with
    | perEvent => exact h.prepareFresh decoder e.payload
    | perSession => exact h.prepareInSession decoder e

lemma deliver (h : Recording q p) (callee : String) (prepared : Prepared) :
    (q.deliver callee prepared).1 = (p.deliver callee prepared).1
      ∧ Recording (q.deliver callee prepared).2 (p.deliver callee prepared).2 := by
  cases prepared with
  | settled outcome => exact ⟨rfl, h⟩
  | stills data =>
    simp only [Pipeline.deliver, h.dispatch]
    exact ⟨trivial, h.registry, h.mode, rfl, h.sessions, h.devices⟩

/-- Writing down the calls changes nothing about an event. -/
lemma handle (h : Recording q p) (e : DecodeEvent) :
    (q.handle e).1 = (p.handle e).1 ∧ Recording (q.handle e).2 (p.handle e).2 := by
  obtain ⟨hprepared, hnext⟩ := h.prepare e
  rw [handle_eq_deliver, handle_eq_deliver, hprepared]
  exact hnext.deliver e.callee _

end Recording
end Pipeline
end SipStills
