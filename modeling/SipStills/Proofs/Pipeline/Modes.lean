/-
# The two decode modes agree on streams of whole pictures

If decoders can always be opened, and what a context makes of a packet does not depend on the
packets before it (`Behaviour.IntraOnly`), then it cannot be seen whether a pipeline keeps its
decode contexts from event to event: `modes_agree` compares a run in the one mode with the same
run in the other.

What is made of an event is then the same in every session and in every mode
(`IntraOnly.next_fst`).  A pipeline that `Conforms` stands where a recorded pipeline of the
behaviour stands, so that it makes just that of an event (`Conforms.prepare_fst`).
-/
import Mathlib.Data.List.Induction
import Mathlib.Tactic.SplitIfs
import SipStills.Proofs.Pipeline.Accounting
import SipStills.Proofs.Pipeline.Isolation

namespace SipStills

open Pipeline (Handled)

variable {δ κ γ : Type}

namespace Behaviour

/-- The decoders of the registry can always be opened, and their contexts make the same of a
packet whatever they were fed before. -/
structure IntraOnly (b : Behaviour δ κ) (r : Registry δ κ) : Prop where
  opens : ∀ {codec decoder}, r.decoder? codec = some decoder → b.opens decoder = true
  decodes : ∀ {codec decoder}, r.decoder? codec = some decoder →
    ∀ fed packet, b.decodes decoder fed packet = b.decodes decoder [] packet

/-- What is made of an event on its own. -/
def alone (b : Behaviour δ κ) (r : Registry δ κ) (e : DecodeEvent) : Prepared :=
  (r.decoder? e.codec).elim (.settled .unknownCodec) fun decoder =>
    b.made (b.decodes decoder [] e.payload)

variable {b : Behaviour δ κ} {r : Registry δ κ} {e : DecodeEvent} {decoder : Decoder δ κ}

lemma IntraOnly.inNewContext_fst (h : b.IntraOnly r) (hdecoder : r.decoder? e.codec = some decoder)
    (life : Option SessionLife) :
    (b.inNewContext decoder life e).1 = b.made (b.decodes decoder [] e.payload) := by
  rw [inNewContext, if_pos (h.opens hdecoder), inContext]

lemma IntraOnly.inSession_fst (h : b.IntraOnly r) (hdecoder : r.decoder? e.codec = some decoder)
    (life : Option SessionLife) :
    (b.inSession decoder life e).1 = b.made (b.decodes decoder [] e.payload) := by
  cases life with
  | none => exact h.inNewContext_fst hdecoder none
  | some l =>
    rw [inSession]
    split
    · rw [inContext, h.decodes hdecoder]
    · exact h.inNewContext_fst hdecoder (some l)

/-- What is made of an event depends neither on the mode nor on the session of its callee. -/
lemma IntraOnly.next_fst (h : b.IntraOnly r) (mode : DecodeMode) (life : Option SessionLife)
    (e : DecodeEvent) : (b.next r mode life e).1 = b.alone r e := by
  rw [next, alone]
  cases hdecoder : r.decoder? e.codec with
  | none => rfl
  | some decoder =>
    cases mode with
    | perEvent => exact h.inNewContext_fst hdecoder none
    | perSession => exact h.inSession_fst hdecoder life

end Behaviour

namespace Pipeline

/-! ### What the uses of a pipeline change -/

/-- A use is a step on the sessions, or it changes the dispatch and nothing else. -/
lemma use_snd (p : Pipeline δ κ γ) (op : PipelineOp γ) :
    (∃ sessionOp, (p.use op).2 = (p.step sessionOp).2)
      ∨ ∃ dispatch, (p.use op).2 = { p with dispatch } := by
  cases op with
  | session op => exact .inl ⟨op, by cases op <;> rfl⟩
  | setConsumer consumer =>
    rw [use]
    cases p.dispatch.set consumer with
    | error fault => exact .inr ⟨p.dispatch, rfl⟩
    | ok dispatch => exact .inr ⟨dispatch, rfl⟩
  | activate => exact .inr ⟨p.dispatch.activate, rfl⟩

lemma mode_use (p : Pipeline δ κ γ) (op : PipelineOp γ) : (p.use op).2.mode = p.mode := by
  obtain ⟨sessionOp, h⟩ | ⟨dispatch, h⟩ := p.use_snd op
  · rw [h, mode_step]
  · rw [h]

/-- An event that gets a context of its own leaves the sessions as they are. -/
lemma sessions_prepare_of_perEvent {p : Pipeline δ κ γ} (hmode : p.mode = .perEvent)
    (e : DecodeEvent) : (p.prepare e).2.sessions = p.sessions := by
  rw [prepare]
  cases p.registry.decoder? e.codec with
  | none => rfl
  | some decoder =>
    simp only [hmode, prepareFresh]
    split <;> rfl

lemma sessions_use_of_perEvent {p : Pipeline δ κ γ} (hmode : p.mode = .perEvent)
    (hempty : p.sessions = {}) (op : PipelineOp γ) : (p.use op).2.sessions = {} := by
  obtain ⟨sessionOp, h⟩ | ⟨dispatch, h⟩ := p.use_snd op
  · rw [h]
    cases sessionOp with
    | handle e => rw [step, sessions_handle, sessions_prepare_of_perEvent hmode, hempty]
    | endSession callee =>
      rw [step, endSession, hempty]
      rfl
    | clearSessions => rfl
  · rw [h, hempty]

lemma sessions_useAll_of_perEvent {p : Pipeline δ κ γ} (hmode : p.mode = .perEvent)
    (hempty : p.sessions = {}) (ops : List (PipelineOp γ)) : (p.useAll ops).2.sessions = {} := by
  induction ops generalizing p with
  | nil => exact hempty
  | cons op ops ih =>
    rw [useAll]
    exact ih ((p.mode_use op).trans hmode) (sessions_use_of_perEvent hmode hempty op)

/-- The dispatch after an event depends on what was prepared and on the dispatch before. -/
lemma dispatch_handle (p : Pipeline δ κ γ) (e : DecodeEvent) :
    (p.handle e).2.dispatch = match (p.prepare e).1 with
      | .settled _ => p.dispatch
      | .stills data => p.dispatch.counted data.length := by
  rw [handle_eq_deliver]
  cases (p.prepare e).1 with
  | settled outcome => exact p.dispatch_prepare e
  | stills data => rw [deliver, dispatch_prepare, Dispatch.offerAll_snd]

/-! ### Pipelines of a behaviour -/

/-- The pipeline stands where a recorded pipeline of the behaviour stands. -/
def Conforms (r : Registry δ κ) (start : δ) (p : Pipeline δ κ γ) : Prop :=
  ∃ q, Behaving r start q ∧ Recording q p

namespace Conforms

variable {r : Registry δ κ} {start : δ} {b : Behaviour δ κ} {p : Pipeline δ κ γ}

lemma of_empty (p : Pipeline δ κ γ) (hempty : p.sessions = {}) :
    Conforms p.registry p.devices p :=
  ⟨p.recorded, .recorded p, recording_recorded hempty⟩

lemma prepare_fst (h : Conforms r start p) (hb : r.Behaves start b) (hintra : b.IntraOnly r)
    (e : DecodeEvent) : (p.prepare e).1 = b.alone r e := by
  obtain ⟨q, hbehaving, hrecording⟩ := h
  calc (p.prepare e).1 = (q.prepare e).1 := (hrecording.prepare e).1.symm
    _ = (b.next r q.mode (q.sessions.lives e.callee) e).1 := (hbehaving.prepare hb e).prepared
    _ = b.alone r e := hintra.next_fst _ _ _

lemma use (h : Conforms r start p) (hb : r.Behaves start b) (op : PipelineOp γ) :
    Conforms r start (p.use op).2 := by
  obtain ⟨q, hbehaving, hrecording⟩ := h
  obtain ⟨sessionOp, hused⟩ | ⟨dispatch, hused⟩ := p.use_snd op
  · rw [hused]
    exact ⟨(q.step sessionOp).2, hbehaving.step hb sessionOp, (hrecording.step sessionOp).2⟩
  · rw [hused]
    exact ⟨{ q with dispatch }, ⟨hbehaving.registry, hbehaving.opener, hbehaving.inUse⟩,
      ⟨hrecording.registry, hrecording.mode, rfl, hrecording.sessions, hrecording.devices⟩⟩

end Conforms

/-! ### Two pipelines side by side -/

variable {r : Registry δ κ} {start : δ} {b : Behaviour δ κ}

/-- One use of two pipelines with the same dispatch. -/
lemma use_agree {p p' : Pipeline δ κ γ} (hb : r.Behaves start b) (hintra : b.IntraOnly r)
    (h : Conforms r start p) (h' : Conforms r start p') (hdispatch : p.dispatch = p'.dispatch)
    (op : PipelineOp γ) :
    (p.use op).1 = (p'.use op).1 ∧ (p.use op).2.dispatch = (p'.use op).2.dispatch := by
  cases op with
  | session op =>
    cases op with
    | handle e =>
      have hprepared : (p.prepare e).1 = (p'.prepare e).1 := by
        rw [h.prepare_fst hb hintra, h'.prepare_fst hb hintra]
      simp only [Pipeline.use, handle_fst, dispatch_handle, hprepared, hdispatch, and_self]
    | endSession callee => exact ⟨rfl, hdispatch⟩
    | clearSessions => exact ⟨rfl, hdispatch⟩
  | setConsumer consumer =>
    simp only [Pipeline.use, hdispatch]
    cases p'.dispatch.set consumer with
    | error fault => exact ⟨rfl, hdispatch⟩
    | ok dispatch => exact ⟨rfl, rfl⟩
  | activate => exact ⟨rfl, congrArg Dispatch.activate hdispatch⟩

lemma useAll_agree {p p' : Pipeline δ κ γ} (hb : r.Behaves start b) (hintra : b.IntraOnly r)
    (h : Conforms r start p) (h' : Conforms r start p') (hdispatch : p.dispatch = p'.dispatch)
    (ops : List (PipelineOp γ)) :
    (p.useAll ops).1 = (p'.useAll ops).1
      ∧ (p.useAll ops).2.dispatch = (p'.useAll ops).2.dispatch := by
  induction ops generalizing p p' with
  | nil => exact ⟨rfl, hdispatch⟩
  | cons op ops ih =>
    obtain ⟨hfirst, hnext⟩ := use_agree hb hintra h h' hdispatch op
    obtain ⟨hrest, hlast⟩ := ih (h.use hb op) (h'.use hb op) hnext
    exact ⟨by rw [useAll, useAll, hfirst, hrest], hlast⟩

end Pipeline

/-- Suppose that decoders can always be opened, that what they make of a packet does not depend on
the packets before it, and that encoding depends on the picture alone.  Then a pipeline that keeps
decode contexts and one that gives every event a context of its own do the same in every run, in
which sessions may be ended, and the consumer may be set, at any point: every event has the same
outcome and brings the same stills to the consumer, and the dispatch has counted the same.  The
second pipeline never has a session. -/
theorem modes_agree {r : Registry δ κ} {start : δ} {b : Behaviour δ κ} (hb : r.Behaves start b)
    (hintra : b.IntraOnly r) (dispatch : Dispatch γ) (ops : List (PipelineOp γ)) :
    let keeping : Pipeline δ κ γ :=
      { registry := r, mode := .perSession, dispatch, devices := start }
    let fresh : Pipeline δ κ γ := { registry := r, mode := .perEvent, dispatch, devices := start }
    (keeping.useAll ops).1 = (fresh.useAll ops).1
      ∧ (keeping.useAll ops).2.dispatch = (fresh.useAll ops).2.dispatch
      ∧ ∀ n, (fresh.useAll (ops.take n)).2.sessions = {} := by
  intro keeping fresh
  have hkeeping : Pipeline.Conforms r start keeping := .of_empty keeping rfl
  have hfresh : Pipeline.Conforms r start fresh := .of_empty fresh rfl
  obtain ⟨hhandled, hdispatch⟩ := Pipeline.useAll_agree hb hintra hkeeping hfresh rfl ops
  exact ⟨hhandled, hdispatch, fun n => Pipeline.sessions_useAll_of_perEvent rfl rfl _⟩

/-- If decoders can be opened and a packet leaves the context that was opened as it is, then what
is made of a packet does not depend on the packets before it. -/
lemma Registry.intraOnly_behaviourAt {r : Registry δ κ} {start : δ}
    (hopens : ∀ decoder ∈ r.decoders, (decoder.openContext start).1.isSome)
    (hkept : ∀ decoder ∈ r.decoders, ∀ context packet,
      (decoder.openContext start).1 = some context →
        (decoder.decode context packet start).2.1 = context) :
    (r.behaviourAt start).IntraOnly r where
  opens hdecoder := hopens _ (List.mem_of_find?_eq_some hdecoder)
  decodes {_ decoder} hdecoder fed packet := by
    have hmem : decoder ∈ r.decoders := List.mem_of_find?_eq_some hdecoder
    obtain ⟨context, hcontext⟩ := Option.isSome_iff_exists.1 (hopens decoder hmem)
    have hafter : ∀ fed, decoder.contextAfter start fed = some context := by
      intro fed
      induction fed using List.reverseRecOn with
      | nil => simp [Decoder.contextAfter, hcontext]
      | append_singleton fed packet ih =>
        rw [Decoder.contextAfter_append, ih, Option.map_some, hkept decoder hmem context packet
          hcontext]
    simp only [behaviourAt, hafter]

/-- A registry whose decoders make a picture of every packet. -/
def wholePictures : Registry SyntheticDevices Bool where
  decoders := [syntheticDecoder (.plain false) .h264 0, syntheticDecoder (.plain false) .mpeg4 1]
  encoder := some (splitEncoder 2)

lemma deviceFree_wholePictures : wholePictures.DeviceFree := by
  refine deviceFree_of_synthetic (fun decoder hdecoder => ?_) rfl
  obtain rfl | rfl : decoder = _ ∨ decoder = _ := by simpa [wholePictures] using hdecoder
  · exact ⟨.plain false, .h264, 0, by decide, rfl⟩
  · exact ⟨.plain false, .mpeg4, 1, by decide, rfl⟩

lemma decodeSynthetic_snd (packet : Bytes) : (decodeSynthetic true packet).2 = true := by
  cases packet with
  | nil => rfl
  | cons b rest =>
    simp only [decodeSynthetic]
    split_ifs <;> rfl

lemma intraOnly_wholePictures (start : SyntheticDevices) :
    (wholePictures.behaviourAt start).IntraOnly wholePictures := by
  refine Registry.intraOnly_behaviourAt (fun decoder hdecoder => ?_)
    fun decoder hdecoder context packet hcontext => ?_
  all_goals
    obtain rfl | rfl : decoder = _ ∨ decoder = _ := by simpa [wholePictures] using hdecoder
  · rfl
  · rfl
  · obtain rfl : true = context := Option.some.inj hcontext
    exact decodeSynthetic_snd packet
  · obtain rfl : true = context := Option.some.inj hcontext
    exact decodeSynthetic_snd packet

/-- A session that changes its codec and ends, one that is ended, an event without decoder, and a
consumer that is set in between. -/
def mixedUses : List (PipelineOp String) :=
  [.session (.handle ⟨"cam-1", .h264, 0, 1, 0, [7]⟩), .setConsumer "disk",
    .session (.handle ⟨"cam-2", .h264, 0, 1, 0, [9]⟩),
    .session (.handle ⟨"cam-1", .mpeg4, 1, 2, 1, [5]⟩), .session (.endSession "cam-2"),
    .session (.handle ⟨"cam-1", .mpeg4, 2, 3, 0, eofPacket⟩),
    .session (.handle ⟨"cam-1", .mjpeg, 3, 1, 0, [4]⟩), .session .clearSessions,
    .session (.handle ⟨"cam-1", .h264, 4, 1, 0, [0xFF]⟩)]

theorem modes_agree_mixed :
    let keeping : Pipeline SyntheticDevices Bool String :=
      { registry := wholePictures, mode := .perSession, dispatch := {}, devices := [{}, {}] }
    let fresh : Pipeline SyntheticDevices Bool String :=
      { registry := wholePictures, mode := .perEvent, dispatch := {}, devices := [{}, {}] }
    wholePictures.Behaves [{}, {}] (wholePictures.behaviourAt [{}, {}])
      ∧ (wholePictures.behaviourAt [{}, {}]).IntraOnly wholePictures
      ∧ (keeping.useAll mixedUses).1 = (fresh.useAll mixedUses).1
      ∧ (keeping.useAll mixedUses).2.dispatch = (fresh.useAll mixedUses).2.dispatch
      ∧ ∀ n, (fresh.useAll (mixedUses.take n)).2.sessions = {} :=
  have hb := deviceFree_wholePictures.behaves [{}, {}]
  have hintra := intraOnly_wholePictures [{}, {}]
  ⟨hb, hintra, modes_agree hb hintra {} mixedUses⟩

end SipStills
