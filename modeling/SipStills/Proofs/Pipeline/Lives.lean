/-
# The lives of sessions

A session lives from the event that opens its context to the end of its stream or to the call
that ends it.  What matters of it is its codec and the packets that its context was fed; `Lives`
holds this for every callee, and `Lives.Step` says how each operation on a pipeline with a
context for each session changes it and which calls it makes to decoders.

`observe` runs a recorded pipeline and tears a page out of its book after each operation.
`observe_follows_lives` says that the pages, the answers and the session table of every run are
those of a run of `Lives.Step`.

The invariant of the proof is `Sound`: the context of each session was opened by the decoder that
is registered for the session's codec.
-/
import SipStills.Proofs.Pipeline.Recorded

namespace SipStills

open Pipeline (Handled)

variable {δ κ γ : Type}

/-! ### Runs -/

/-- An operation that sessions are used or ended by. -/
inductive SessionOp where
  /-- An event is handled. -/
  | handle (e : DecodeEvent)
  /-- The session of a callee is ended. -/
  | endSession (callee : String)
  /-- All sessions are ended. -/
  | clearSessions

/-- What an operation answers. -/
inductive SessionAnswer (γ : Type) where
  /-- What became of an event. -/
  | handled (h : Handled γ)
  /-- Whether there was a session to end. -/
  | ended (wasThere : Bool)
  /-- All sessions were ended. -/
  | cleared

namespace Pipeline

/-- One operation. -/
def step (p : Pipeline δ κ γ) : SessionOp → SessionAnswer γ × Pipeline δ κ γ
  | .handle e => (.handled (p.handle e).1, (p.handle e).2)
  | .endSession callee => (.ended (p.endSession callee).1, (p.endSession callee).2)
  | .clearSessions => (.cleared, p.clearSessions)

/-- Operations one after the other. -/
def run (p : Pipeline δ κ γ) : List SessionOp → List (SessionAnswer γ) × Pipeline δ κ γ
  | [] => ([], p)
  | op :: ops =>
    let r := p.step op
    let rest := run r.2 ops
    (r.1 :: rest.1, rest.2)

end Pipeline

/-- What is seen of an operation: the calls that it makes to decoders, and its answer. -/
structure Observation (δ κ γ : Type) where
  /-- The operation. -/
  op : SessionOp
  /-- The calls, in their order. -/
  calls : List (ContextCall δ κ)
  /-- The answer. -/
  answer : SessionAnswer γ

namespace Pipeline

/-- The pipeline with an empty page in its book. -/
def turnPage (q : Pipeline (Booked δ κ) (Traced δ κ) γ) : Pipeline (Booked δ κ) (Traced δ κ) γ :=
  { q with devices := (q.devices.1, []) }

/-- Operations one after the other, each seen on its own. -/
def observe (q : Pipeline (Booked δ κ) (Traced δ κ) γ) :
    List SessionOp → List (Observation δ κ γ) × Pipeline (Booked δ κ) (Traced δ κ) γ
  | [] => ([], q)
  | op :: ops =>
    let r := q.turnPage.step op
    let rest := observe r.2 ops
    (⟨op, r.2.devices.2, r.1⟩ :: rest.1, rest.2)

end Pipeline

/-! ### Lives -/

/-- The life of a session so far. -/
structure SessionLife where
  /-- The codec that its context was opened for. -/
  codec : CodecId
  /-- The packets that its context was fed since then, the oldest first. -/
  fed : List Bytes

/-- The lives of the sessions that are there. -/
abbrev Lives := String → Option SessionLife

namespace Lives

/-- A session was used; it is over if the stream has ended. -/
def use (l : Lives) (callee : String) (outcome : Outcome) (life : SessionLife) : Lives :=
  Function.update l callee (if outcome = .endOfStream then none else some life)

/-- What an operation does to the lives of sessions, which calls it makes, and what it
answers. -/
inductive Step (r : Registry δ κ) : Lives → Observation δ κ γ → Lives → Prop where
  /-- Without a decoder nothing is called and nothing changes. -/
  | unknown {l : Lives} {e : DecodeEvent} (hdecoder : r.decoder? e.codec = none) :
      Step r l ⟨.handle e, [], .handled ⟨.unknownCodec, []⟩⟩ l
  /-- If a context is needed and cannot be opened, nothing changes; a session of another codec
  stays. -/
  | refused {l : Lives} {e : DecodeEvent} {decoder : Decoder δ κ}
      (hdecoder : r.decoder? e.codec = some decoder)
      (hneed : ∀ life, l e.callee = some life → life.codec ≠ e.codec) :
      Step r l ⟨.handle e, [.opened decoder false], .handled ⟨.openFailed, []⟩⟩ l
  /-- If a context is needed and can be opened, the packet is the first that it is fed. -/
  | opened {l : Lives} {e : DecodeEvent} {decoder : Decoder δ κ} (h : Handled γ)
      (hdecoder : r.decoder? e.codec = some decoder)
      (hneed : ∀ life, l e.callee = some life → life.codec ≠ e.codec) :
      Step r l
        ⟨.handle e, [.opened decoder true, .decoded decoder decoder [] e.payload], .handled h⟩
        (l.use e.callee h.outcome ⟨e.codec, [e.payload]⟩)
  /-- A session of the event's codec goes on; no context is opened. -/
  | resumed {l : Lives} {e : DecodeEvent} {decoder : Decoder δ κ} {fed : List Bytes}
      (h : Handled γ) (hdecoder : r.decoder? e.codec = some decoder)
      (hlife : l e.callee = some ⟨e.codec, fed⟩) :
      Step r l ⟨.handle e, [.decoded decoder decoder fed e.payload], .handled h⟩
        (l.use e.callee h.outcome ⟨e.codec, fed ++ [e.payload]⟩)
  /-- One session is ended. -/
  | ended {l : Lives} {callee : String} :
      Step r l ⟨.endSession callee, [], .ended (l callee).isSome⟩ (Function.update l callee none)
  /-- All sessions are ended. -/
  | cleared {l : Lives} : Step r l ⟨.clearSessions, [], .cleared⟩ fun _ => none

/-- Steps one after the other. -/
inductive Run (r : Registry δ κ) : Lives → List (Observation δ κ γ) → Lives → Prop where
  | nil {l : Lives} : Run r l [] l
  | cons {l l' l'' : Lives} {o : Observation δ κ γ} {os : List (Observation δ κ γ)}
      (hstep : Step r l o l') (hrun : Run r l' os l'') : Run r l (o :: os) l''

end Lives

namespace SessionTable

/-- The lives of the sessions in a table. -/
def lives (t : SessionTable (Traced δ κ)) : Lives := fun callee =>
  (t.get? callee).map fun s => ⟨s.codec, s.context.fed⟩

lemma lives_of_get? {t : SessionTable (Traced δ κ)} {callee : String} {s : Session (Traced δ κ)}
    (h : t.get? callee = some s) : t.lives callee = some ⟨s.codec, s.context.fed⟩ := by
  rw [lives, h, Option.map_some]

lemma isSome_lives (t : SessionTable (Traced δ κ)) (callee : String) :
    (t.lives callee).isSome = (t.get? callee).isSome := by
  rw [lives, Option.isSome_map]

lemma lives_put (t : SessionTable (Traced δ κ)) (callee : String) (s : Session (Traced δ κ)) :
    (t.put callee s).lives = Function.update t.lives callee (some ⟨s.codec, s.context.fed⟩) := by
  funext other
  by_cases h : other = callee
  · subst h
    simp [lives, get?_put]
  · simp [lives, get?_put, h]

lemma lives_erase (t : SessionTable (Traced δ κ)) (callee : String) :
    (t.erase callee).lives = Function.update t.lives callee none := by
  funext other
  by_cases h : other = callee
  · subst h
    simp [lives, get?_erase]
  · simp [lives, get?_erase, h]

/-- The context of every session was opened by the decoder of the session's codec. -/
def OpenedBy (t : SessionTable (Traced δ κ)) (r : Registry δ κ) : Prop :=
  ∀ callee s, t.get? callee = some s → r.decoder? s.codec = some s.context.opener

variable {t : SessionTable (Traced δ κ)} {r : Registry δ κ}

lemma openedBy_empty (r : Registry δ κ) : ({} : SessionTable (Traced δ κ)).OpenedBy r :=
  fun callee s hs => absurd hs (by simp)

lemma OpenedBy.opener_eq (h : t.OpenedBy r) {callee : String} {codec : CodecId}
    {decoder : Decoder δ κ} {s : Session (Traced δ κ)} (hs : t.get? callee = some s)
    (hcodec : s.codec = codec) (hdecoder : r.decoder? codec = some decoder) :
    s.context.opener = decoder := by
  have hopener := h callee s hs
  rw [hcodec, hdecoder] at hopener
  exact (Option.some.inj hopener).symm

lemma OpenedBy.erase (h : t.OpenedBy r) (callee : String) : (t.erase callee).OpenedBy r := by
  intro other s hs
  rw [get?_erase] at hs
  split at hs
  · exact absurd hs (by simp)
  · exact h other s hs

lemma OpenedBy.put (h : t.OpenedBy r) {callee : String} {s : Session (Traced δ κ)}
    (hs : r.decoder? s.codec = some s.context.opener) : (t.put callee s).OpenedBy r := by
  intro other s' hs'
  rw [get?_put] at hs'
  split at hs'
  · obtain rfl := Option.some.inj hs'
    exact hs
  · exact h other s' hs'

end SessionTable

/-! ### The steps of a recorded pipeline -/

namespace Pipeline

/-- If a new context is needed, no session of the codec is alive. -/
lemma NeedsOpen.codec_ne {q : Pipeline (Booked δ κ) (Traced δ κ) γ} {callee : String}
    {codec : CodecId} (h : q.NeedsOpen callee codec) :
    ∀ life, q.sessions.lives callee = some life → life.codec ≠ codec := by
  intro life hlife
  obtain ⟨s, hs, rfl⟩ := Option.map_eq_some_iff.1 hlife
  exact h s hs

lemma lives_sessionsAfter (t : SessionTable (Traced δ κ)) (callee : String)
    (s : Session (Traced δ κ)) (prepared : Prepared) :
    (sessionsAfter t callee s prepared).lives
      = Function.update t.lives callee
          (if prepared = .settled .endOfStream then none else some ⟨s.codec, s.context.fed⟩) := by
  unfold sessionsAfter
  split
  · exact t.lives_erase callee
  · exact t.lives_put callee s

lemma openedBy_sessionsAfter {t : SessionTable (Traced δ κ)} {r : Registry δ κ}
    (h : t.OpenedBy r) {callee : String} {s : Session (Traced δ κ)}
    (hs : r.decoder? s.codec = some s.context.opener) (prepared : Prepared) :
    (sessionsAfter t callee s prepared).OpenedBy r := by
  unfold sessionsAfter
  split
  · exact h.erase callee
  · exact h.put hs

/-- The pipeline works with the recorded decoders of `r` and keeps a context for each session,
which the right decoder has opened. -/
structure Sound (r : Registry δ κ) (q : Pipeline (Booked δ κ) (Traced δ κ) γ) : Prop where
  registry : q.registry = r.recorded
  mode : q.mode = .perSession
  opener : q.sessions.OpenedBy r

/-- An operation on an empty page is a step in the lives of the sessions and keeps the pipeline
sound. -/
structure Follows (r : Registry δ κ) (q : Pipeline (Booked δ κ) (Traced δ κ) γ)
    (op : SessionOp) : Prop where
  step : Lives.Step r q.sessions.lives ⟨op, (q.step op).2.devices.2, (q.step op).1⟩
    (q.step op).2.sessions.lives
  sound : Sound r (q.step op).2

namespace Sound

variable {r : Registry δ κ} {q : Pipeline (Booked δ κ) (Traced δ κ) γ}

lemma prepare_eq (h : Sound r q) {e : DecodeEvent} {decoder : Decoder δ κ}
    (hdecoder : r.decoder? e.codec = some decoder) :
    q.prepare e = q.prepareInSession decoder.recorded e := by
  simp only [prepare, h.registry, Registry.decoder?_recorded, hdecoder, h.mode, Option.map_some]

lemma handle_of_prepare {e : DecodeEvent} (hnext : Sound r (q.prepare e).2) :
    Sound r (q.handle e).2 := by
  obtain ⟨dispatch, -, hhandle⟩ := q.handle_snd e
  rw [hhandle]
  exact ⟨hnext.registry, hnext.mode, hnext.opener⟩

/-- An event that is decoded in the session `s`: one call is made, and the session has been
used. -/
lemma handle_in_session (h : Sound r q) {e : DecodeEvent} {decoder : Decoder δ κ}
    (hdecoder : r.decoder? e.codec = some decoder) {s : Session (Traced δ κ)}
    {devices : Booked δ κ}
    (hfor : q.sessionFor decoder.recorded e.callee e.codec = (some s, devices))
    (hcodec : s.codec = e.codec) (hopener : s.context.opener = decoder) :
    (q.handle e).2.devices.2
        = devices.2 ++ [.decoded decoder decoder s.context.fed e.payload]
      ∧ (q.handle e).2.sessions.lives
        = q.sessions.lives.use e.callee (q.handle e).1.outcome
            ⟨e.codec, s.context.fed ++ [e.payload]⟩
      ∧ Sound r (q.handle e).2 := by
  have hprepare := h.prepare_eq hdecoder
  rw [prepareInSession_some hfor, h.registry] at hprepare
  simp only [Registry.encodeDecoded_recorded, Decoder.decode_recorded] at hprepare
  rw [devices_handle, sessions_handle, handle_fst]
  refine ⟨?_, ?_, handle_of_prepare ?_⟩
  · rw [hprepare, hopener]
  · rw [hprepare, ← hcodec]
    simp only [Lives.use, handledAs_outcome_eq_endOfStream_iff, lives_sessionsAfter]
  · have hs : r.decoder? s.codec = some s.context.opener := by rw [hcodec, hopener, hdecoder]
    rw [hprepare]
    refine ⟨rfl, h.mode, openedBy_sessionsAfter h.opener ?_ _⟩
    exact hs

/-- An event of a codec without decoder. -/
lemma handle_unknown (h : Sound r q) (hpage : q.devices.2 = []) {e : DecodeEvent}
    (hdecoder : r.decoder? e.codec = none) : Follows r q (.handle e) := by
  have hprepare : q.prepare e = (.settled .unknownCodec, q) := by
    simp only [prepare, h.registry, Registry.decoder?_recorded, hdecoder, Option.map_none]
  refine ⟨?_, handle_of_prepare (by rwa [hprepare])⟩
  simp only [Pipeline.step]
  rw [devices_handle, sessions_handle, handle_fst, hprepare, hpage]
  exact .unknown hdecoder

/-- An event whose callee has a session of the codec: the session goes on with the decoder that
opened it. -/
lemma handle_of_get? (h : Sound r q) (hpage : q.devices.2 = []) {e : DecodeEvent}
    {decoder : Decoder δ κ} (hdecoder : r.decoder? e.codec = some decoder)
    {s : Session (Traced δ κ)} (hs : q.sessions.get? e.callee = some s)
    (hcodec : s.codec = e.codec) : Follows r q (.handle e) := by
  obtain ⟨hcalls, hlives, hsound⟩ := h.handle_in_session hdecoder
    (sessionFor_of_get? hs hcodec decoder.recorded) hcodec
    (h.opener.opener_eq hs hcodec hdecoder)
  have hlife := SessionTable.lives_of_get? hs
  rw [hcodec] at hlife
  refine ⟨?_, hsound⟩
  simp only [Pipeline.step]
  rw [hcalls, hlives, hpage]
  exact .resumed _ hdecoder hlife

/-- An event that needs a new context: the decoder is asked for one, and whether there is a
session to be replaced makes no difference. -/
lemma handle_of_needsOpen (h : Sound r q) (hpage : q.devices.2 = []) {e : DecodeEvent}
    {decoder : Decoder δ κ} (hdecoder : r.decoder? e.codec = some decoder)
    (hneed : q.NeedsOpen e.callee e.codec) : Follows r q (.handle e) := by
  have hfor := sessionFor_of_needsOpen hneed decoder.recorded
  rw [Decoder.openContext_recorded, hpage, List.nil_append] at hfor
  rcases ho : decoder.openContext q.devices.1 with ⟨_ | context, devices⟩
  · rw [ho] at hfor
    have hprepare := h.prepare_eq hdecoder
    rw [prepareInSession_none hfor] at hprepare
    refine ⟨?_, handle_of_prepare ?_⟩
    · simp only [Pipeline.step]
      rw [devices_handle, sessions_handle, handle_fst, hprepare]
      exact .refused hdecoder hneed.codec_ne
    · rw [hprepare]
      exact ⟨h.registry, h.mode, h.opener⟩
  · rw [ho] at hfor
    obtain ⟨hcalls, hlives, hsound⟩ := h.handle_in_session hdecoder hfor rfl rfl
    refine ⟨?_, hsound⟩
    simp only [Pipeline.step]
    rw [hcalls, hlives]
    exact .opened _ hdecoder hneed.codec_ne

/-- Handling an event is a step in the lives of the sessions. -/
lemma handle (h : Sound r q) (hpage : q.devices.2 = []) (e : DecodeEvent) :
    Follows r q (.handle e) := by
  cases hdecoder : r.decoder? e.codec with
  | none => exact h.handle_unknown hpage hdecoder
  | some decoder =>
    obtain ⟨s, hs, hcodec⟩ | hneed := q.get?_or_needsOpen e.callee e.codec
    · exact h.handle_of_get? hpage hdecoder hs hcodec
    · exact h.handle_of_needsOpen hpage hdecoder hneed

/-- Every operation is a step in the lives of the sessions. -/
lemma step (h : Sound r q) (hpage : q.devices.2 = []) (op : SessionOp) : Follows r q op := by
  cases op with
  | handle e => exact h.handle hpage e
  | endSession callee =>
    refine ⟨?_, h.registry, h.mode, h.opener.erase callee⟩
    simp only [Pipeline.step, endSession, hpage, SessionTable.lives_erase,
      ← SessionTable.isSome_lives]
    exact .ended
  | clearSessions =>
    refine ⟨?_, h.registry, h.mode, SessionTable.openedBy_empty r⟩
    simp only [Pipeline.step, clearSessions, hpage]
    exact .cleared

/-- Every run is a run of the lives of the sessions. -/
lemma observe (h : Sound r q) (ops : List SessionOp) :
    Lives.Run r q.sessions.lives (q.observe ops).1 (q.observe ops).2.sessions.lives := by
  induction ops generalizing q with
  | nil => exact .nil
  | cons op ops ih =>
    have hturn : Sound r q.turnPage := ⟨h.registry, h.mode, h.opener⟩
    obtain ⟨hstep, hnext⟩ := hturn.step rfl op
    exact .cons hstep (ih hnext)

end Sound

/-- Every operation keeps a recorded pipeline beside the pipeline itself. -/
lemma Recording.step {q : Pipeline (Booked δ κ) (Traced δ κ) γ} {p : Pipeline δ κ γ}
    (h : Recording q p) (op : SessionOp) :
    (q.step op).1 = (p.step op).1 ∧ Recording (q.step op).2 (p.step op).2 := by
  cases op with
  | handle e =>
    obtain ⟨hanswer, hnext⟩ := h.handle e
    exact ⟨congrArg SessionAnswer.handled hanswer, hnext⟩
  | endSession callee =>
    refine ⟨?_, h.registry, h.mode, h.dispatch, ?_, h.devices⟩
    · simp only [Pipeline.step, endSession, h.get? callee, Option.isSome_map]
    · simp only [Pipeline.step, endSession, SessionTable.plain_erase, h.sessions]
  | clearSessions => exact ⟨rfl, h.registry, h.mode, h.dispatch, rfl, h.devices⟩

lemma Recording.observe {q : Pipeline (Booked δ κ) (Traced δ κ) γ} {p : Pipeline δ κ γ}
    (h : Recording q p) (ops : List SessionOp) :
    (q.observe ops).1.map (fun o => (o.op, o.answer)) = ops.zip (p.run ops).1
      ∧ Recording (q.observe ops).2 (p.run ops).2 := by
  induction ops generalizing q p with
  | nil => exact ⟨rfl, h⟩
  | cons op ops ih =>
    have hturn : Recording q.turnPage p := ⟨h.registry, h.mode, h.dispatch, h.sessions, h.devices⟩
    obtain ⟨hanswer, hnext⟩ := hturn.step op
    obtain ⟨hrest, hlast⟩ := ih hnext
    refine ⟨?_, hlast⟩
    simp only [Pipeline.observe, Pipeline.run, List.map_cons, List.zip_cons_cons, hanswer, hrest]

end Pipeline

/-- A pipeline that keeps a context for each session handles and ends sessions as `Lives.Step`
says: in every run from an empty table, the operations, the calls made to decoders, the answers
and the sessions that are left are those of a run of the lives of sessions.  Writing down the
calls changes neither the answers nor the table. -/
theorem observe_follows_lives (r : Registry δ κ) (dispatch : Dispatch γ) (devices : δ)
    (ops : List SessionOp) :
    let p : Pipeline δ κ γ := { registry := r, mode := .perSession, dispatch, devices }
    let seen := p.recorded.observe ops
    Lives.Run r (fun _ => none) seen.1 seen.2.sessions.lives
      ∧ seen.1.map (fun o => (o.op, o.answer)) = ops.zip (p.run ops).1
      ∧ seen.2.sessions.plain = (p.run ops).2.sessions := by
  intro p seen
  have hsound : Pipeline.Sound r p.recorded := ⟨rfl, rfl, SessionTable.openedBy_empty r⟩
  obtain ⟨hanswers, hlast⟩ := (Pipeline.recording_recorded (p := p) rfl).observe ops
  exact ⟨hsound.observe ops, hanswers, hlast.sessions⟩

end SipStills
