/-
# What handling an event does

The facts about sessions and events from which runs of a pipeline are analysed.

* The session table is a finite map: `get?_put`, `get?_erase`.
* An event is decoded in the session of its callee or in a new one.  `sessionFor_of_get?` and
  `sessionFor_of_needsOpen` say which, and `prepareInSession_none` and `prepareInSession_some`
  say what follows from it.
* The sessions of other callees are not touched, and do not matter (`spares_of_ne`).
* `handle_eq_deliver` splits handling into the preparation of the stills and their delivery;
  what is delivered depends on the preparation and on the consumer alone (`deliver_fst`).
-/
import Mathlib.Logic.Function.Basic
import Mathlib.Tactic.Lemma
import SipStills.Entries
import SipStills.Pipeline

namespace SipStills

namespace SessionTable

variable {κ : Type} (t : SessionTable κ)

@[simp] lemma get?_empty (callee : String) : ({} : SessionTable κ).get? callee = none := rfl

/-- Erasing a callee erases no other. -/
lemma get?_erase (callee other : String) :
    (t.erase callee).get? other = if other = callee then none else t.get? other := by
  rw [get?, erase, Entries.find?_without]
  split <;> rfl

/-- A session that was put is found, and all others are as before. -/
lemma get?_put (callee other : String) (s : Session κ) :
    (t.put callee s).get? other = if other = callee then some s else t.get? other := by
  rw [get?, put, erase, Entries.find?_renewed]
  split <;> rfl

lemma mem_entries_of_get? {callee : String} {s : Session κ} (h : t.get? callee = some s) :
    (callee, s) ∈ t.entries := by
  obtain ⟨x, hx, rfl⟩ := Option.map_eq_some_iff.1 h
  have hkey : x.1 = callee := by simpa using List.find?_some hx
  have hmem := List.mem_of_find?_eq_some hx
  rwa [← hkey]

end SessionTable

namespace Pipeline

variable {δ κ γ : Type}

/-! ### The session of an event -/

/-- The callee has no session of the codec, so that decoding needs a new context. -/
def NeedsOpen (p : Pipeline δ κ γ) (callee : String) (codec : CodecId) : Prop :=
  ∀ s, p.sessions.get? callee = some s → s.codec ≠ codec

lemma sessionFor_of_get? {p : Pipeline δ κ γ} {callee : String} {codec : CodecId} {s : Session κ}
    (h : p.sessions.get? callee = some s) (hcodec : s.codec = codec) (decoder : Decoder δ κ) :
    p.sessionFor decoder callee codec = (some s, p.devices) := by
  simp only [sessionFor, h, if_pos hcodec]

lemma sessionFor_of_needsOpen {p : Pipeline δ κ γ} {callee : String} {codec : CodecId}
    (h : p.NeedsOpen callee codec) (decoder : Decoder δ κ) :
    p.sessionFor decoder callee codec
      = ((decoder.openContext p.devices).1.map (Session.mk codec),
          (decoder.openContext p.devices).2) := by
  rcases hopen : decoder.openContext p.devices with ⟨context, devices⟩
  cases hs : p.sessions.get? callee with
  | none => cases context <;> simp only [sessionFor, hopen, hs] <;> rfl
  | some s =>
    have hne := h s hs
    cases context <;> simp only [sessionFor, hopen, hs, if_neg hne] <;> rfl

/-- An event finds a session of its codec, or it needs a new context. -/
lemma get?_or_needsOpen (p : Pipeline δ κ γ) (callee : String) (codec : CodecId) :
    (∃ s, p.sessions.get? callee = some s ∧ s.codec = codec) ∨ p.NeedsOpen callee codec := by
  by_cases h : ∃ s, p.sessions.get? callee = some s ∧ s.codec = codec
  · exact .inl h
  · exact .inr fun s hs hcodec => h ⟨s, hs, hcodec⟩

/-- The table after a session was used: a stream that has ended ends the session. -/
def sessionsAfter (t : SessionTable κ) (callee : String) (s : Session κ) (prepared : Prepared) :
    SessionTable κ :=
  if prepared = .settled .endOfStream then t.erase callee else t.put callee s

lemma prepareInSession_none {p : Pipeline δ κ γ} {decoder : Decoder δ κ} {e : DecodeEvent}
    {devices : δ} (h : p.sessionFor decoder e.callee e.codec = (none, devices)) :
    p.prepareInSession decoder e = (.settled .openFailed, { p with devices }) := by
  simp only [prepareInSession, h]

lemma prepareInSession_some {p : Pipeline δ κ γ} {decoder : Decoder δ κ} {e : DecodeEvent}
    {devices : δ} {s : Session κ}
    (h : p.sessionFor decoder e.callee e.codec = (some s, devices)) :
    p.prepareInSession decoder e
      = (let decoded := decoder.decode s.context e.payload devices
        let prepared := p.registry.encodeDecoded decoded.1 decoded.2.2
        (prepared.1,
          { p with
            sessions := sessionsAfter p.sessions e.callee ⟨s.codec, decoded.2.1⟩ prepared.1
            devices := prepared.2 })) := by
  simp only [prepareInSession, h]
  rfl

/-! ### Delivery -/

/-- The stills of a preparation on their way to the consumer. -/
def deliver (p : Pipeline δ κ γ) (callee : String) : Prepared → Handled γ × Pipeline δ κ γ
  | .settled outcome => (⟨outcome, []⟩, p)
  | .stills data =>
    let r := p.dispatch.offerAll callee data
    (⟨outcomeOf data.length r.1, r.1⟩, { p with dispatch := r.2 })

lemma handle_eq_deliver (p : Pipeline δ κ γ) (e : DecodeEvent) :
    p.handle e = (p.prepare e).2.deliver e.callee (p.prepare e).1 := by
  rw [handle]
  rcases p.prepare e with ⟨_ | _, _⟩ <;> rfl

end Pipeline

/-- What a consumer gets of stills, if there is one. -/
def deliveriesTo {γ : Type} (consumer : Option γ) (callee : String) (data : List Bytes) :
    List (Delivery γ) :=
  consumer.elim [] fun consumer => data.map fun data => { consumer, callee, data }

lemma Dispatch.offerAll_fst {γ : Type} (d : Dispatch γ) (callee : String) (data : List Bytes) :
    (d.offerAll callee data).1 = deliveriesTo d.consumer callee data := by
  induction data generalizing d with
  | nil => cases d.consumer <;> rfl
  | cons still rest ih =>
    cases hc : d.consumer with
    | none => simp [offerAll, offer, ih, hc, deliveriesTo, countDiscarded]
    | some consumer => simp [offerAll, offer, ih, hc, deliveriesTo, countDelivered]

lemma Dispatch.consumer_offerAll {γ : Type} (d : Dispatch γ) (callee : String)
    (data : List Bytes) : (d.offerAll callee data).2.consumer = d.consumer := by
  induction data generalizing d with
  | nil => rfl
  | cons still rest ih =>
    cases hc : d.consumer with
    | none => simp [offerAll, offer, ih, hc, countDiscarded]
    | some consumer => simp [offerAll, offer, ih, hc, countDelivered]

namespace Pipeline

variable {δ κ γ : Type}

/-- What is known about an event whose preparation is known. -/
def handledAs (consumer : Option γ) (callee : String) : Prepared → Handled γ
  | .settled outcome => ⟨outcome, []⟩
  | .stills data =>
    ⟨outcomeOf data.length (deliveriesTo consumer callee data), deliveriesTo consumer callee data⟩

lemma deliver_fst (p : Pipeline δ κ γ) (callee : String) (prepared : Prepared) :
    (p.deliver callee prepared).1 = handledAs p.dispatch.consumer callee prepared := by
  cases prepared with
  | settled outcome => rfl
  | stills data => simp only [deliver, handledAs, Dispatch.offerAll_fst]

/-- Delivery changes the counters of the dispatch and nothing else. -/
lemma deliver_snd (p : Pipeline δ κ γ) (callee : String) (prepared : Prepared) :
    ∃ dispatch, dispatch.consumer = p.dispatch.consumer
      ∧ (p.deliver callee prepared).2 = { p with dispatch } := by
  cases prepared with
  | settled outcome => exact ⟨p.dispatch, rfl, rfl⟩
  | stills data =>
    exact ⟨(p.dispatch.offerAll callee data).2, Dispatch.consumer_offerAll _ _ _, rfl⟩

/-- Preparing stills changes the sessions and the devices and nothing else. -/
lemma prepare_snd (p : Pipeline δ κ γ) (e : DecodeEvent) :
    ∃ sessions devices, (p.prepare e).2 = { p with sessions, devices } := by
  unfold prepare
  split
  · exact ⟨p.sessions, p.devices, rfl⟩
  · split
    · unfold prepareFresh
      split <;> exact ⟨p.sessions, _, rfl⟩
    · unfold prepareInSession
      split
      · exact ⟨p.sessions, _, rfl⟩
      · exact ⟨_, _, rfl⟩

lemma dispatch_prepare (p : Pipeline δ κ γ) (e : DecodeEvent) :
    (p.prepare e).2.dispatch = p.dispatch := by
  obtain ⟨sessions, devices, h⟩ := p.prepare_snd e
  rw [h]

lemma mode_prepare (p : Pipeline δ κ γ) (e : DecodeEvent) : (p.prepare e).2.mode = p.mode := by
  obtain ⟨sessions, devices, h⟩ := p.prepare_snd e
  rw [h]

lemma handle_fst (p : Pipeline δ κ γ) (e : DecodeEvent) :
    (p.handle e).1 = handledAs p.dispatch.consumer e.callee (p.prepare e).1 := by
  rw [handle_eq_deliver, deliver_fst, dispatch_prepare]

/-- Handling an event leaves what preparing it leaves, up to the counters of the dispatch. -/
lemma handle_snd (p : Pipeline δ κ γ) (e : DecodeEvent) :
    ∃ dispatch, dispatch.consumer = p.dispatch.consumer
      ∧ (p.handle e).2 = { (p.prepare e).2 with dispatch } := by
  obtain ⟨dispatch, hconsumer, hdeliver⟩ := deliver_snd (p.prepare e).2 e.callee (p.prepare e).1
  rw [dispatch_prepare] at hconsumer
  exact ⟨dispatch, hconsumer, by rw [handle_eq_deliver, hdeliver]⟩

@[simp] lemma devices_handle (p : Pipeline δ κ γ) (e : DecodeEvent) :
    (p.handle e).2.devices = (p.prepare e).2.devices := by
  obtain ⟨dispatch, -, h⟩ := p.handle_snd e
  rw [h]

@[simp] lemma sessions_handle (p : Pipeline δ κ γ) (e : DecodeEvent) :
    (p.handle e).2.sessions = (p.prepare e).2.sessions := by
  obtain ⟨dispatch, -, h⟩ := p.handle_snd e
  rw [h]

/-- Stills that were dispatched never count as the end of a stream. -/
lemma handledAs_outcome_eq_endOfStream_iff {consumer : Option γ} {callee : String}
    {prepared : Prepared} :
    (handledAs consumer callee prepared).outcome = .endOfStream
      ↔ prepared = .settled .endOfStream := by
  cases prepared with
  | settled outcome => simp [handledAs]
  | stills data =>
    simp only [handledAs, outcomeOf, reduceCtorEq, iff_false]
    split <;> exact Outcome.noConfusion

/-! ### Other sessions -/

lemma get?_sessionsAfter_of_ne {callee other : String} (hne : other ≠ callee)
    (t : SessionTable κ) (s : Session κ) (prepared : Prepared) :
    (sessionsAfter t callee s prepared).get? other = t.get? other := by
  unfold sessionsAfter
  split
  · rw [SessionTable.get?_erase, if_neg hne]
  · rw [SessionTable.get?_put, if_neg hne]

/-- Preparing the event leaves the session of the callee as it is, and comes to the same whatever
this session is. -/
structure Spares (p : Pipeline δ κ γ) (callee : String) (e : DecodeEvent) : Prop where
  kept : (p.prepare e).2.sessions.get? callee = p.sessions.get? callee
  unseen : ∀ t : SessionTable κ,
    (∀ other, other ≠ callee → t.get? other = p.sessions.get? other) →
      (prepare { p with sessions := t } e).1 = (p.prepare e).1
      ∧ (prepare { p with sessions := t } e).2.devices = (p.prepare e).2.devices

lemma get?_prepareInSession_of_ne (p : Pipeline δ κ γ) (decoder : Decoder δ κ) {callee : String}
    {e : DecodeEvent} (hne : callee ≠ e.callee) :
    (p.prepareInSession decoder e).2.sessions.get? callee = p.sessions.get? callee := by
  rcases hsession : p.sessionFor decoder e.callee e.codec with ⟨_ | s, devices⟩
  · rw [prepareInSession_none hsession]
  · rw [prepareInSession_some hsession]
    exact get?_sessionsAfter_of_ne hne _ _ _

/-- Of the sessions only the one of the callee matters. -/
lemma prepareInSession_congr (p : Pipeline δ κ γ) (decoder : Decoder δ κ) {e : DecodeEvent}
    {t : SessionTable κ} (ht : t.get? e.callee = p.sessions.get? e.callee) :
    (prepareInSession { p with sessions := t } decoder e).1 = (p.prepareInSession decoder e).1
      ∧ (prepareInSession { p with sessions := t } decoder e).2.devices
        = (p.prepareInSession decoder e).2.devices := by
  have hsame : sessionFor { p with sessions := t } decoder e.callee e.codec
      = p.sessionFor decoder e.callee e.codec := by
    simp only [sessionFor, ht]
  rcases hsession : p.sessionFor decoder e.callee e.codec with ⟨_ | s, devices⟩
  · rw [prepareInSession_none hsession, prepareInSession_none (hsame.trans hsession)]
    exact ⟨rfl, rfl⟩
  · rw [prepareInSession_some hsession, prepareInSession_some (hsame.trans hsession)]
    exact ⟨rfl, rfl⟩

/-- An event spares the sessions of all callees but its own. -/
lemma spares_of_ne (p : Pipeline δ κ γ) {callee : String} {e : DecodeEvent}
    (hne : e.callee ≠ callee) : p.Spares callee e := by
  cases hdecoder : p.registry.decoder? e.codec with
  | none =>
    constructor
    · simp only [prepare, hdecoder]
    · intro t ht
      simp only [prepare, hdecoder, and_self]
  | some decoder =>
    cases hmode : p.mode with
    | perEvent =>
      constructor
      · simp only [prepare, hdecoder, hmode, prepareFresh]
        split <;> rfl
      · intro t ht
        simp only [prepare, hdecoder, hmode, prepareFresh]
        split <;> exact ⟨rfl, rfl⟩
    | perSession =>
      constructor
      · simp only [prepare, hdecoder, hmode]
        exact p.get?_prepareInSession_of_ne decoder hne.symm
      · intro t ht
        simp only [prepare, hdecoder, hmode]
        exact hmode ▸ p.prepareInSession_congr decoder (ht e.callee hne)

end Pipeline
end SipStills
