/-
# Decoders that share nothing

Decoders, contexts and the encoder may share devices, and what one context makes of a packet may
then depend on what another was fed.  This file says what it means that it does not.

`InUse` holds of the devices and the contexts that any use of a registry leads to: contexts are
opened, fed and dropped, and pictures are encoded, in any order.  A registry has a `Behaviour` if
under every such use opening depends on the decoder alone, decoding on the decoder and on what
the context was fed, and encoding on the picture alone (`Registry.Behaves`).  That is the case
when the devices are never looked at (`DeviceFree.behaves`), but a registry may also keep the
contexts' state in the devices, as long as it keeps it apart.

The behaviour determines what an event does to the session of its callee (`Behaviour.next`), and
`Behaving.prepare` says that a pipeline does just that.
-/
import Mathlib.Data.List.Perm.Subperm
import SipStills.Proofs.Pipeline.Lives

namespace SipStills

open Pipeline (Handled)

variable {δ κ γ : Type}

/-! ### Uses of a registry -/

/-- From the devices `start`, using the decoders and the encoder has led to these devices, with
these contexts in use. -/
inductive Registry.InUse (r : Registry δ κ) (start : δ) : δ → List (Traced δ κ) → Prop where
  | start : InUse r start start []
  | opened {d : δ} {contexts : List (Traced δ κ)} {codec : CodecId} {decoder : Decoder δ κ}
      {context : κ} (h : InUse r start d contexts) (hdecoder : r.decoder? codec = some decoder)
      (hopen : (decoder.openContext d).1 = some context) :
      InUse r start (decoder.openContext d).2 (⟨decoder, [], context⟩ :: contexts)
  | refused {d : δ} {contexts : List (Traced δ κ)} {codec : CodecId} {decoder : Decoder δ κ}
      (h : InUse r start d contexts) (hdecoder : r.decoder? codec = some decoder)
      (hopen : (decoder.openContext d).1 = none) :
      InUse r start (decoder.openContext d).2 contexts
  | decoded {d : δ} {contexts : List (Traced δ κ)} {t : Traced δ κ} (packet : Bytes)
      (h : InUse r start d (t :: contexts)) :
      InUse r start (t.opener.decode t.context packet d).2.2
        (⟨t.opener, t.fed ++ [packet], (t.opener.decode t.context packet d).2.1⟩ :: contexts)
  | encoded {d : δ} {contexts : List (Traced δ κ)} (f : Frame) (h : InUse r start d contexts) :
      InUse r start (r.encode f d).2 contexts
  | kept {d : δ} {contexts contexts' : List (Traced δ κ)} (h : InUse r start d contexts)
      (hsub : contexts'.Subperm contexts) : InUse r start d contexts'

/-- What opening, decoding and encoding come to. -/
structure Behaviour (δ κ : Type) where
  /-- Whether a decoder can be opened. -/
  opens : Decoder δ κ → Bool
  /-- What a context of a decoder that was fed these packets makes of a packet. -/
  decodes : Decoder δ κ → List Bytes → Bytes → Decoded
  /-- What encoding makes of a picture. -/
  stills : Frame → Prepared

/-- However the registry is used, opening depends on the decoder alone, decoding on the decoder
and on what the context was fed, and encoding on the picture alone. -/
structure Registry.Behaves (r : Registry δ κ) (start : δ) (b : Behaviour δ κ) : Prop where
  opens : ∀ {d contexts}, r.InUse start d contexts → ∀ {codec decoder},
    r.decoder? codec = some decoder → (decoder.openContext d).1.isSome = b.opens decoder
  decodes : ∀ {d t contexts}, r.InUse start d (t :: contexts) → ∀ packet,
    (t.opener.decode t.context packet d).1 = b.decodes t.opener t.fed packet
  stills : ∀ {d contexts}, r.InUse start d contexts → ∀ f, (r.encode f d).1 = b.stills f

/-! ### Registries that do not look at the devices -/

/-- No decoder and no encoder looks at the devices. -/
structure Registry.DeviceFree (r : Registry δ κ) : Prop where
  opens : ∀ decoder ∈ r.decoders, ∀ d d', (decoder.openContext d).1 = (decoder.openContext d').1
  decodes : ∀ decoder ∈ r.decoders, ∀ context packet d d',
    (decoder.decode context packet d).1 = (decoder.decode context packet d').1
      ∧ (decoder.decode context packet d).2.1 = (decoder.decode context packet d').2.1
  encodes : ∀ f d d', (r.encode f d).1 = (r.encode f d').1

namespace Decoder

/-- The context that a decoder opens, after it was fed these packets. -/
def contextAfter (decoder : Decoder δ κ) (start : δ) (fed : List Bytes) : Option κ :=
  (decoder.openContext start).1.map fun context =>
    fed.foldl (fun context packet => (decoder.decode context packet start).2.1) context

lemma contextAfter_append (decoder : Decoder δ κ) (start : δ) (fed : List Bytes)
    (packet : Bytes) :
    decoder.contextAfter start (fed ++ [packet])
      = (decoder.contextAfter start fed).map fun context =>
          (decoder.decode context packet start).2.1 := by
  simp [contextAfter, Option.map_map, Function.comp_def]

end Decoder

namespace Registry

/-- What a registry does while its devices are `start`. -/
def behaviourAt (r : Registry δ κ) (start : δ) : Behaviour δ κ where
  opens decoder := (decoder.openContext start).1.isSome
  decodes decoder fed packet :=
    (decoder.contextAfter start fed).elim .failed fun context =>
      (decoder.decode context packet start).1
  stills f := (r.encode f start).1

/-- Each context in use is what its decoder and its packets make it. -/
lemma DeviceFree.contextAfter {r : Registry δ κ} (h : r.DeviceFree) {start d : δ}
    {contexts : List (Traced δ κ)} (huse : r.InUse start d contexts) :
    ∀ t ∈ contexts, t.opener ∈ r.decoders
      ∧ t.opener.contextAfter start t.fed = some t.context := by
  induction huse with
  | start => exact fun t ht => absurd ht (by simp)
  | @opened d contexts codec decoder context _ hdecoder hopen ih =>
    refine List.forall_mem_cons.2 ⟨?_, ih⟩
    have hmem : decoder ∈ r.decoders := List.mem_of_find?_eq_some hdecoder
    refine ⟨hmem, ?_⟩
    simp only [Decoder.contextAfter, h.opens decoder hmem start d, hopen, Option.map_some,
      List.foldl_nil]
  | refused _ _ _ ih => exact ih
  | @decoded d contexts t packet _ ih =>
    obtain ⟨⟨hmem, hcontext⟩, hrest⟩ := List.forall_mem_cons.1 ih
    -- the new context is the one after the packets so far and this one
    refine List.forall_mem_cons.2 ⟨⟨hmem, ?_⟩, hrest⟩
    rw [Decoder.contextAfter_append, hcontext, Option.map_some,
      (h.decodes t.opener hmem t.context packet start d).2]
  | encoded f _ ih => exact ih
  | kept _ hsub ih => exact fun t ht => ih t (hsub.subset ht)

theorem DeviceFree.behaves {r : Registry δ κ} (h : r.DeviceFree) (start : δ) :
    r.Behaves start (r.behaviourAt start) where
  opens _ _ _ hdecoder :=
    congrArg Option.isSome (h.opens _ (List.mem_of_find?_eq_some hdecoder) _ _)
  decodes {_ t _} huse packet := by
    obtain ⟨hmem, hcontext⟩ := h.contextAfter huse t List.mem_cons_self
    simp only [behaviourAt, hcontext, Option.elim_some]
    exact (h.decodes t.opener hmem t.context packet _ _).1
  stills _ f := h.encodes f _ _

end Registry

/-! ### What an event does to the session of its callee -/

namespace Behaviour

/-- What becomes of the result of decoding. -/
def made (b : Behaviour δ κ) : Decoded → Prepared
  | .picture f => b.stills f
  | .again => .settled .needMoreData
  | .eof => .settled .endOfStream
  | .failed => .settled .decodeFailed

/-- What is made of an event in a context that was fed the packets `fed` before, and what becomes
of the session that keeps the context. -/
def inContext (b : Behaviour δ κ) (decoder : Decoder δ κ) (e : DecodeEvent) (fed : List Bytes) :
    Prepared × Option SessionLife :=
  let made := b.made (b.decodes decoder fed e.payload)
  (made, if made = .settled .endOfStream then none else some ⟨e.codec, fed ++ [e.payload]⟩)

/-- The same in a new context; the session stays if none can be opened. -/
def inNewContext (b : Behaviour δ κ) (decoder : Decoder δ κ) (life : Option SessionLife)
    (e : DecodeEvent) : Prepared × Option SessionLife :=
  if b.opens decoder then b.inContext decoder e [] else (.settled .openFailed, life)

/-- The same in the session of the callee, if it has one of the codec of the event. -/
def inSession (b : Behaviour δ κ) (decoder : Decoder δ κ) (life : Option SessionLife)
    (e : DecodeEvent) : Prepared × Option SessionLife :=
  match life with
  | none => b.inNewContext decoder none e
  | some l =>
    if l.codec = e.codec then b.inContext decoder e l.fed else b.inNewContext decoder (some l) e

lemma inSession_of_ne (b : Behaviour δ κ) (decoder : Decoder δ κ) {life : Option SessionLife}
    {e : DecodeEvent} (h : ∀ l, life = some l → l.codec ≠ e.codec) :
    b.inSession decoder life e = b.inNewContext decoder life e := by
  cases life with
  | none => rfl
  | some l => exact if_neg (h l rfl)

/-- What is made of an event of a callee, and what becomes of the callee's session. -/
def next (b : Behaviour δ κ) (r : Registry δ κ) (mode : DecodeMode) (life : Option SessionLife)
    (e : DecodeEvent) : Prepared × Option SessionLife :=
  match r.decoder? e.codec with
  | none => (.settled .unknownCodec, life)
  | some decoder =>
    match mode with
    | .perEvent => ((b.inNewContext decoder none e).1, life)
    | .perSession => b.inSession decoder life e

end Behaviour

namespace SessionTable

variable (t : SessionTable (Traced δ κ))

/-- The contexts of the sessions. -/
def contexts : List (Traced δ κ) := t.entries.map fun x => x.2.context

lemma contexts_erase_subperm (callee : String) :
    (t.erase callee).contexts.Subperm t.contexts :=
  (List.filter_sublist.map _).subperm

/-- The context of a session and those of the other sessions are different contexts of the
table. -/
lemma cons_contexts_erase_subperm {callee : String} {s : Session (Traced δ κ)}
    (h : t.get? callee = some s) :
    (s.context :: (t.erase callee).contexts).Subperm t.contexts := by
  have hnot : (callee, s) ∉ (t.erase callee).entries := by
    simp [erase]
  have hsub : ((callee, s) :: (t.erase callee).entries).Subperm t.entries :=
    List.cons_subperm_of_not_mem_of_mem hnot (t.mem_entries_of_get? h)
      List.filter_sublist.subperm
  obtain ⟨l, hperm, hsublist⟩ := hsub
  exact ⟨_, hperm.map fun x => x.2.context, hsublist.map _⟩

lemma contexts_put (callee : String) (s : Session (Traced δ κ)) :
    (t.put callee s).contexts = s.context :: (t.erase callee).contexts := rfl

end SessionTable

namespace Pipeline

variable {r : Registry δ κ} {start : δ} {b : Behaviour δ κ}

/-- Encoding what was decoded is a use of the registry. -/
lemma inUse_encodeDecoded (hb : r.Behaves start b) {d : δ} {contexts : List (Traced δ κ)}
    (huse : r.InUse start d contexts) (x : Decoded) :
    (r.encodeDecoded x d).1 = b.made x ∧ r.InUse start (r.encodeDecoded x d).2 contexts := by
  cases x with
  | picture f => exact ⟨hb.stills huse f, huse.encoded f⟩
  | again | eof | failed => exact ⟨rfl, huse⟩

/-- A context that is put back into the table, or dropped, leaves only contexts in use. -/
lemma inUse_sessionsAfter {d : δ} {t : SessionTable (Traced δ κ)} {callee : String}
    {s : Session (Traced δ κ)} (prepared : Prepared)
    (huse : r.InUse start d (s.context :: (t.erase callee).contexts)) :
    r.InUse start d (sessionsAfter t callee s prepared).contexts := by
  unfold sessionsAfter
  split
  · exact huse.kept (List.sublist_cons_self _ _).subperm
  · rwa [SessionTable.contexts_put]

/-- A recorded pipeline whose sessions hold contexts that are in use. -/
structure Behaving (r : Registry δ κ) (start : δ)
    (q : Pipeline (Booked δ κ) (Traced δ κ) γ) : Prop where
  registry : q.registry = r.recorded
  opener : q.sessions.OpenedBy r
  inUse : r.InUse start q.devices.1 q.sessions.contexts

/-- The result of an event is what the behaviour has: the stills, what becomes of the session of
the callee, and that the other sessions are as before. -/
structure Agrees (r : Registry δ κ) (start : δ) (q : Pipeline (Booked δ κ) (Traced δ κ) γ)
    (e : DecodeEvent) (result : Prepared × Pipeline (Booked δ κ) (Traced δ κ) γ)
    (next : Prepared × Option SessionLife) : Prop where
  prepared : result.1 = next.1
  lives : result.2.sessions.lives = Function.update q.sessions.lives e.callee next.2
  behaving : Behaving r start result.2

namespace Behaving

/-- A recorded pipeline at its start. -/
lemma recorded (p : Pipeline δ κ γ) : Behaving p.registry p.devices p.recorded :=
  ⟨rfl, SessionTable.openedBy_empty p.registry, .start⟩

variable {q : Pipeline (Booked δ κ) (Traced δ κ) γ} {e : DecodeEvent} {decoder : Decoder δ κ}

/-- An event that is decoded in a context of its own. -/
lemma prepareFresh (h : Behaving r start q) (hb : r.Behaves start b)
    (hdecoder : r.decoder? e.codec = some decoder) :
    Agrees r start q e (q.prepareFresh decoder.recorded e.payload)
      ((b.inNewContext decoder none e).1, q.sessions.lives e.callee) := by
  have hopens := hb.opens h.inUse hdecoder
  rcases ho : decoder.openContext q.devices.1 with ⟨_ | context, devices⟩
  · have hrefused := h.inUse.refused hdecoder (by rw [ho])
    simp only [ho, Option.isSome_none] at hopens hrefused
    simp only [Pipeline.prepareFresh, Decoder.recorded, ho, Option.map_none,
      Behaviour.inNewContext, ← hopens, Bool.false_eq_true, if_false]
    exact ⟨rfl, (Function.update_eq_self _ _).symm, h.registry, h.opener, hrefused⟩
  · have hopened := h.inUse.opened hdecoder (by rw [ho])
    simp only [ho, Option.isSome_some] at hopens hopened
    obtain ⟨hmade, hencoded⟩ := inUse_encodeDecoded hb (hopened.decoded e.payload)
      (decoder.decode context e.payload devices).1
    simp only [Pipeline.prepareFresh, Decoder.recorded, ho, Option.map_some,
      Behaviour.inNewContext, ← hopens, if_true, h.registry, Registry.encodeDecoded_recorded]
    refine ⟨?_, (Function.update_eq_self _ _).symm, rfl, h.opener, ?_⟩
    · rw [hmade, hb.decodes hopened e.payload]
      rfl
    · -- the context is not kept
      exact hencoded.kept (List.sublist_cons_self _ _).subperm

/-- An event that is decoded in the session `s`. -/
lemma prepareInSession (h : Behaving r start q) (hb : r.Behaves start b)
    (hdecoder : r.decoder? e.codec = some decoder) {s : Session (Traced δ κ)}
    {devices : Booked δ κ}
    (hfor : q.sessionFor decoder.recorded e.callee e.codec = (some s, devices))
    (hcodec : s.codec = e.codec) (hopener : s.context.opener = decoder)
    (huse : r.InUse start devices.1 (s.context :: (q.sessions.erase e.callee).contexts)) :
    Agrees r start q e (q.prepareInSession decoder.recorded e)
      (b.inContext decoder e s.context.fed) := by
  subst hopener
  obtain ⟨hmade, hencoded⟩ := inUse_encodeDecoded hb (huse.decoded e.payload)
    (s.context.opener.decode s.context.context e.payload devices.1).1
  rw [hb.decodes huse e.payload] at hmade
  have hs : r.decoder? s.codec = some s.context.opener := by rw [hcodec, hdecoder]
  rw [prepareInSession_some hfor, h.registry]
  simp only [Registry.encodeDecoded_recorded, Decoder.decode_recorded]
  refine ⟨?_, ?_, rfl, openedBy_sessionsAfter h.opener ?_ _, inUse_sessionsAfter _ ?_⟩
  · rw [hb.decodes huse e.payload, hmade]
    rfl
  · rw [lives_sessionsAfter, hb.decodes huse e.payload, hmade, hcodec]
    rfl
  · exact hs
  · exact hencoded

/-- An event whose callee has a session of the codec. -/
lemma prepareInSession_of_get? (h : Behaving r start q) (hb : r.Behaves start b)
    (hdecoder : r.decoder? e.codec = some decoder) {s : Session (Traced δ κ)}
    (hs : q.sessions.get? e.callee = some s) (hcodec : s.codec = e.codec) :
    Agrees r start q e (q.prepareInSession decoder.recorded e)
      (b.inSession decoder (q.sessions.lives e.callee) e) := by
  rw [SessionTable.lives_of_get? hs, Behaviour.inSession, if_pos hcodec]
  exact h.prepareInSession hb hdecoder (sessionFor_of_get? hs hcodec _) hcodec
    (h.opener.opener_eq hs hcodec hdecoder)
    (h.inUse.kept (q.sessions.cons_contexts_erase_subperm hs))

/-- An event that needs a new context.  The context of a session of another codec is dropped
only when the new one is there. -/
lemma prepareInSession_of_needsOpen (h : Behaving r start q) (hb : r.Behaves start b)
    (hdecoder : r.decoder? e.codec = some decoder) (hneed : q.NeedsOpen e.callee e.codec) :
    Agrees r start q e (q.prepareInSession decoder.recorded e)
      (b.inSession decoder (q.sessions.lives e.callee) e) := by
  rw [b.inSession_of_ne decoder hneed.codec_ne, Behaviour.inNewContext,
    ← hb.opens h.inUse hdecoder]
  have hfor := sessionFor_of_needsOpen hneed decoder.recorded
  rcases ho : decoder.openContext q.devices.1 with ⟨_ | context, devices⟩
  · have hrefused := h.inUse.refused hdecoder (by rw [ho])
    rw [Decoder.openContext_recorded, ho] at hfor
    rw [ho] at hrefused
    rw [prepareInSession_none hfor]
    exact ⟨rfl, (Function.update_eq_self _ _).symm, h.registry, h.opener, hrefused⟩
  · have hopened := h.inUse.opened hdecoder (by rw [ho])
    rw [Decoder.openContext_recorded, ho] at hfor
    rw [ho] at hopened
    -- the sessions of the other callees keep their contexts
    have hsub := q.sessions.contexts_erase_subperm e.callee
    exact h.prepareInSession hb hdecoder hfor rfl rfl
      (hopened.kept ((List.subperm_cons _).2 hsub))

/-- Preparing an event does what the behaviour has. -/
lemma prepare (h : Behaving r start q) (hb : r.Behaves start b) (e : DecodeEvent) :
    Agrees r start q e (q.prepare e) (b.next r q.mode (q.sessions.lives e.callee) e) := by
  simp only [Behaviour.next, Pipeline.prepare, h.registry, Registry.decoder?_recorded]
  cases hdecoder : r.decoder? e.codec with
  | none => exact ⟨rfl, (Function.update_eq_self _ _).symm, h⟩
  | some decoder =>
    cases hmode : q.mode with
    | perEvent => exact h.prepareFresh hb hdecoder
    | perSession =>
      obtain ⟨s, hs, hcodec⟩ | hneed := q.get?_or_needsOpen e.callee e.codec
      · exact h.prepareInSession_of_get? hb hdecoder hs hcodec
      · exact h.prepareInSession_of_needsOpen hb hdecoder hneed

end Behaving
end Pipeline
end SipStills
