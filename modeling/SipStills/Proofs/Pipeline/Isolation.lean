/-
# Sessions do not leak into each other

All sessions of a pipeline share one table, one encoder, one consumer and the devices.  If the
decoders share nothing (`Registry.Behaves`), then nothing of one session is seen in another:
`run_isolated` compares two runs with the same operations on the session of one callee, in the
same order, among any operations on other sessions.

The answers to the operations of one callee are computed by `Behaviour.runOf` from these
operations alone.  `Behaving.run` says that a recorded pipeline, whatever else it is asked,
gives these answers.
-/
import SipStills.Pipeline.Synthetic
import SipStills.Proofs.Pipeline.Behaviour

namespace SipStills

open Pipeline (Handled)

variable {δ κ γ : Type}

/-! ### The operations on one session -/

/-- The event without the numbers that it announces: its place, and the announced and the
missing length. -/
def DecodeEvent.unnumbered (e : DecodeEvent) : DecodeEvent :=
  { e with index := 0, total := 0, remaining := 0 }

namespace SessionOp

/-- The operation without the numbers that its event announces. -/
def unnumbered : SessionOp → SessionOp
  | .handle e => .handle e.unnumbered
  | .endSession callee => .endSession callee
  | .clearSessions => .clearSessions

/-- The operation can touch the session of the callee. -/
def concerns (callee : String) : SessionOp → Bool
  | .handle e => decide (e.callee = callee)
  | .endSession other => decide (other = callee)
  | .clearSessions => true

/-- The operations that can touch the session of the callee. -/
def on (callee : String) (ops : List SessionOp) : List SessionOp := ops.filter (concerns callee)

lemma on_cons_of_concerns {callee : String} {op : SessionOp} (h : op.concerns callee = true)
    (ops : List SessionOp) : on callee (op :: ops) = op :: on callee ops :=
  List.filter_cons_of_pos h

lemma on_cons_of_not_concerns {callee : String} {op : SessionOp}
    (h : op.concerns callee = false) (ops : List SessionOp) :
    on callee (op :: ops) = on callee ops :=
  List.filter_cons_of_neg (by simp [h])

end SessionOp

namespace SessionAnswer

/-- The stills that an operation brought to the consumer. -/
def deliveries : SessionAnswer γ → List (Delivery γ)
  | .handled h => h.deliveries
  | .ended _ => []
  | .cleared => []

/-- Of the answers to these operations, those to operations on the session of the callee. -/
def on (callee : String) (ops : List SessionOp) (answers : List (SessionAnswer γ)) :
    List (SessionAnswer γ) :=
  ((ops.zip answers).filter fun x => x.1.concerns callee).map (·.2)

/-- What the consumer received in the name of the callee. -/
def received (callee : String) (answers : List (SessionAnswer γ)) : List (Delivery γ) :=
  (answers.flatMap deliveries).filter fun x => x.callee = callee

variable {callee : String} {op : SessionOp}

lemma on_cons_of_concerns (h : op.concerns callee = true) (ops : List SessionOp)
    (a : SessionAnswer γ) (answers : List (SessionAnswer γ)) :
    on callee (op :: ops) (a :: answers) = a :: on callee ops answers := by
  simp [on, h]

lemma on_cons_of_not_concerns (h : op.concerns callee = false) (ops : List SessionOp)
    (a : SessionAnswer γ) (answers : List (SessionAnswer γ)) :
    on callee (op :: ops) (a :: answers) = on callee ops answers := by
  simp [on, h]

end SessionAnswer

namespace Pipeline

lemma step_unnumbered (p : Pipeline δ κ γ) (op : SessionOp) : p.step op.unnumbered = p.step op := by
  cases op <;> rfl

/-- The numbers that events announce are not looked at. -/
lemma run_unnumbered (p : Pipeline δ κ γ) (ops : List SessionOp) :
    p.run (ops.map SessionOp.unnumbered) = p.run ops := by
  induction ops generalizing p with
  | nil => rfl
  | cons op ops ih => simp only [List.map_cons, run, step_unnumbered, ih]

lemma callee_of_mem_deliveries (p : Pipeline δ κ γ) (e : DecodeEvent) :
    ∀ x ∈ (p.handle e).1.deliveries, x.callee = e.callee := by
  intro x hx
  rw [handle_fst] at hx
  cases hprepared : (p.prepare e).1 with
  | settled outcome =>
    rw [hprepared] at hx
    exact absurd hx List.not_mem_nil
  | stills data =>
    rw [hprepared] at hx
    cases hconsumer : p.dispatch.consumer with
    | none =>
      rw [hconsumer] at hx
      exact absurd hx List.not_mem_nil
    | some consumer =>
      rw [hconsumer] at hx
      obtain ⟨still, -, rfl⟩ := List.mem_map.1 hx
      rfl

/-- Stills are delivered in the name of the callee of their event. -/
lemma filter_deliveries_step (p : Pipeline δ κ γ) (callee : String) (op : SessionOp) :
    (p.step op).1.deliveries.filter (fun x => x.callee = callee)
      = if op.concerns callee then (p.step op).1.deliveries else [] := by
  cases op with
  | handle e =>
    have hcallee := p.callee_of_mem_deliveries e
    by_cases he : e.callee = callee
    · simp only [SessionOp.concerns, he, decide_true, if_true]
      exact List.filter_eq_self.2 fun x hx => decide_eq_true ((hcallee x hx).trans he)
    · simp only [SessionOp.concerns, he, decide_false, Bool.false_eq_true, if_false]
      refine List.filter_eq_nil_iff.2 fun x hx hx' => he ?_
      exact (hcallee x hx).symm.trans (of_decide_eq_true hx')
  | endSession other => simp [step, SessionAnswer.deliveries]
  | clearSessions => rfl

lemma received_run (p : Pipeline δ κ γ) (callee : String) (ops : List SessionOp) :
    SessionAnswer.received callee (p.run ops).1
      = (SessionAnswer.on callee ops (p.run ops).1).flatMap SessionAnswer.deliveries := by
  induction ops generalizing p with
  | nil => rfl
  | cons op ops ih =>
    have hrest := ih (p.step op).2
    simp only [SessionAnswer.received] at hrest
    simp only [SessionAnswer.received, run, List.flatMap_cons, List.filter_append,
      filter_deliveries_step, hrest]
    cases hop : op.concerns callee with
    | true => rw [SessionAnswer.on_cons_of_concerns hop, if_pos rfl, List.flatMap_cons]
    | false => simp [SessionAnswer.on_cons_of_not_concerns hop]

end Pipeline

/-! ### The answers to the operations on one session -/

namespace Behaviour

variable (b : Behaviour δ κ) (r : Registry δ κ) (mode : DecodeMode) (consumer : Option γ)

/-- The answer to an operation on a session, and what becomes of the session. -/
def answer (life : Option SessionLife) : SessionOp → SessionAnswer γ × Option SessionLife
  | .handle e =>
    let next := b.next r mode life e
    (.handled (Pipeline.handledAs consumer e.callee next.1), next.2)
  | .endSession _ => (.ended life.isSome, none)
  | .clearSessions => (.cleared, none)

/-- The answers to operations on one session, one after the other. -/
def runOf (life : Option SessionLife) :
    List SessionOp → List (SessionAnswer γ) × Option SessionLife
  | [] => ([], life)
  | op :: ops =>
    let a := b.answer r mode consumer life op
    let rest := runOf a.2 ops
    (a.1 :: rest.1, rest.2)

lemma runOf_unnumbered (life : Option SessionLife) (ops : List SessionOp) :
    b.runOf r mode consumer life (ops.map SessionOp.unnumbered)
      = b.runOf r mode consumer life ops := by
  induction ops generalizing life with
  | nil => rfl
  | cons op ops ih =>
    have hanswer : b.answer r mode consumer life op.unnumbered
        = b.answer r mode consumer life op := by
      cases op <;> rfl
    simp only [List.map_cons, runOf, hanswer, ih]

end Behaviour

namespace Pipeline

lemma mode_step (p : Pipeline δ κ γ) (op : SessionOp) : (p.step op).2.mode = p.mode := by
  cases op with
  | handle e =>
    obtain ⟨dispatch, -, hhandle⟩ := p.handle_snd e
    rw [step, hhandle]
    exact p.mode_prepare e
  | endSession callee => rfl
  | clearSessions => rfl

lemma consumer_step (p : Pipeline δ κ γ) (op : SessionOp) :
    (p.step op).2.dispatch.consumer = p.dispatch.consumer := by
  cases op with
  | handle e =>
    obtain ⟨dispatch, hconsumer, hhandle⟩ := p.handle_snd e
    rw [step, hhandle]
    exact hconsumer
  | endSession callee => rfl
  | clearSessions => rfl

namespace Behaving

variable {r : Registry δ κ} {start : δ} {b : Behaviour δ κ}
  {q : Pipeline (Booked δ κ) (Traced δ κ) γ}

lemma step (h : Behaving r start q) (hb : r.Behaves start b) (op : SessionOp) :
    Behaving r start (q.step op).2 := by
  cases op with
  | handle e =>
    have hnext := (h.prepare hb e).behaving
    obtain ⟨dispatch, -, hhandle⟩ := q.handle_snd e
    rw [Pipeline.step, hhandle]
    exact ⟨hnext.registry, hnext.opener, hnext.inUse⟩
  | endSession callee =>
    exact ⟨h.registry, h.opener.erase callee,
      h.inUse.kept (q.sessions.contexts_erase_subperm callee)⟩
  | clearSessions =>
    exact ⟨h.registry, SessionTable.openedBy_empty r, h.inUse.kept List.nil_subperm⟩

/-- An operation on the session of the callee. -/
lemma step_of_concerns (h : Behaving r start q) (hb : r.Behaves start b) {callee : String}
    {op : SessionOp} (hop : op.concerns callee = true) :
    ((q.step op).1, (q.step op).2.sessions.lives callee)
      = b.answer r q.mode q.dispatch.consumer (q.sessions.lives callee) op := by
  cases op with
  | handle e =>
    obtain rfl := of_decide_eq_true hop
    have hagrees := h.prepare hb e
    simp only [Pipeline.step, Behaviour.answer, handle_fst, sessions_handle, hagrees.prepared,
      hagrees.lives, Function.update_self]
  | endSession other =>
    obtain rfl := of_decide_eq_true hop
    simp only [Pipeline.step, Behaviour.answer, endSession, SessionTable.lives_erase,
      Function.update_self, SessionTable.isSome_lives]
  | clearSessions => rfl

/-- An operation on other sessions. -/
lemma step_of_not_concerns (h : Behaving r start q) (hb : r.Behaves start b) {callee : String}
    {op : SessionOp} (hop : op.concerns callee = false) :
    (q.step op).2.sessions.lives callee = q.sessions.lives callee := by
  cases op with
  | handle e =>
    have hne : callee ≠ e.callee := Ne.symm (of_decide_eq_false hop)
    rw [Pipeline.step, sessions_handle, (h.prepare hb e).lives, Function.update_of_ne hne]
  | endSession other =>
    have hne : callee ≠ other := Ne.symm (of_decide_eq_false hop)
    rw [Pipeline.step, endSession, SessionTable.lives_erase, Function.update_of_ne hne]
  | clearSessions => exact absurd hop (by simp [SessionOp.concerns])

/-- In every run the answers to the operations on the session of the callee, and what becomes of
this session, are determined by these operations. -/
lemma run (h : Behaving r start q) (hb : r.Behaves start b) (callee : String)
    (ops : List SessionOp) :
    (SessionAnswer.on callee ops (q.run ops).1, (q.run ops).2.sessions.lives callee)
      = b.runOf r q.mode q.dispatch.consumer (q.sessions.lives callee)
          (SessionOp.on callee ops) := by
  induction ops generalizing q with
  | nil => rfl
  | cons op ops ih =>
    have hrest := ih (h.step hb op)
    rw [mode_step, consumer_step] at hrest
    cases hop : op.concerns callee with
    | true =>
      -- the first answer is the first of the behaviour, and both go on with the same life
      have hanswer := h.step_of_concerns hb hop
      rw [SessionOp.on_cons_of_concerns hop, Behaviour.runOf, ← hanswer, ← hrest]
      exact Prod.ext (SessionAnswer.on_cons_of_concerns hop _ _ _) rfl
    | false =>
      -- nothing of the first operation is left in what is compared
      rw [h.step_of_not_concerns hb hop] at hrest
      rw [SessionOp.on_cons_of_not_concerns hop, ← hrest]
      exact Prod.ext (SessionAnswer.on_cons_of_not_concerns hop _ _ _) rfl

end Behaving

lemma Recording.run {q : Pipeline (Booked δ κ) (Traced δ κ) γ} {p : Pipeline δ κ γ}
    (h : Recording q p) (ops : List SessionOp) :
    (q.run ops).1 = (p.run ops).1 ∧ Recording (q.run ops).2 (p.run ops).2 := by
  induction ops generalizing q p with
  | nil => exact ⟨rfl, h⟩
  | cons op ops ih =>
    obtain ⟨hanswer, hnext⟩ := h.step op
    obtain ⟨hrest, hlast⟩ := ih hnext
    exact ⟨congrArg₂ List.cons hanswer hrest, hlast⟩

/-- A run from an empty table. -/
lemma run_eq_runOf {p : Pipeline δ κ γ} {b : Behaviour δ κ}
    (hb : p.registry.Behaves p.devices b) (hempty : p.sessions = {}) (callee : String)
    (ops : List SessionOp) :
    let own := b.runOf p.registry p.mode p.dispatch.consumer none (SessionOp.on callee ops)
    SessionAnswer.on callee ops (p.run ops).1 = own.1
      ∧ ((p.run ops).2.sessions.get? callee).isSome = own.2.isSome := by
  obtain ⟨hanswers, hlast⟩ := (recording_recorded hempty).run ops
  have hrun := (Behaving.recorded p).run hb callee ops
  intro own
  have hown : own = _ := hrun.symm
  rw [hown, ← hanswers, hlast.get? callee, Option.isSome_map, SessionTable.isSome_lives]
  exact ⟨rfl, rfl⟩

end Pipeline

/-- Sessions do not leak into each other.  Suppose that opening depends on the decoder alone,
decoding on the decoder and what the context was fed, and encoding on the picture.  If two runs
have the same operations on the session of a callee, in the same order, then these get the same
answers, the consumer receives the same in the name of the callee, and the callee has a session
after both runs or after none.  The numbers that events announce are not looked at. -/
theorem run_isolated {r : Registry δ κ} {start : δ} {b : Behaviour δ κ}
    (hb : r.Behaves start b) (mode : DecodeMode) (dispatch : Dispatch γ) :
    let p : Pipeline δ κ γ := { registry := r, mode, dispatch, devices := start }
    (∀ callee ops ops', (SessionOp.on callee ops).map SessionOp.unnumbered
          = (SessionOp.on callee ops').map SessionOp.unnumbered →
        SessionAnswer.on callee ops (p.run ops).1 = SessionAnswer.on callee ops' (p.run ops').1
          ∧ SessionAnswer.received callee (p.run ops).1
            = SessionAnswer.received callee (p.run ops').1
          ∧ ((p.run ops).2.sessions.get? callee).isSome
            = ((p.run ops').2.sessions.get? callee).isSome)
      ∧ ∀ ops ops', ops.map SessionOp.unnumbered = ops'.map SessionOp.unnumbered →
          p.run ops = p.run ops' := by
  intro p
  refine ⟨fun callee ops ops' hops => ?_, fun ops ops' hops => ?_⟩
  · obtain ⟨hanswers, hsome⟩ := Pipeline.run_eq_runOf (p := p) hb rfl callee ops
    obtain ⟨hanswers', hsome'⟩ := Pipeline.run_eq_runOf (p := p) hb rfl callee ops'
    -- both runs come to what the behaviour makes of the operations on the session
    have hown : b.runOf r mode dispatch.consumer none (SessionOp.on callee ops)
        = b.runOf r mode dispatch.consumer none (SessionOp.on callee ops') := by
      rw [← Behaviour.runOf_unnumbered, hops, Behaviour.runOf_unnumbered]
    have hon : SessionAnswer.on callee ops (p.run ops).1
        = SessionAnswer.on callee ops' (p.run ops').1 := by
      rw [hanswers, hanswers']
      exact congrArg Prod.fst hown
    refine ⟨hon, ?_, ?_⟩
    · rw [Pipeline.received_run, Pipeline.received_run, hon]
    · rw [hsome, hsome']
      exact congrArg (fun own => own.2.isSome) hown
  · rw [← Pipeline.run_unnumbered, hops, Pipeline.run_unnumbered]

/-- Synthetic decoders that follow no script share nothing. -/
lemma deviceFree_of_synthetic {r : Registry SyntheticDevices Bool} {parts : Nat}
    (hdecoders : ∀ decoder ∈ r.decoders, ∃ kind codec i, kind ≠ .scripted
      ∧ decoder = syntheticDecoder kind codec i)
    (hencoder : r.encoder = some (splitEncoder parts)) : r.DeviceFree where
  opens decoder hdecoder d d' := by
    obtain ⟨kind, codec, i, hkind, rfl⟩ := hdecoders decoder hdecoder
    cases kind with
    | plain needsConfig => rfl
    | broken => rfl
    | scripted => exact absurd rfl hkind
  decodes decoder hdecoder context packet d d' := by
    obtain ⟨kind, codec, i, hkind, rfl⟩ := hdecoders decoder hdecoder
    cases kind with
    | plain needsConfig => exact ⟨rfl, rfl⟩
    | broken => exact ⟨rfl, rfl⟩
    | scripted => exact absurd rfl hkind
  encodes f d d' := by
    by_cases h : f.width = (EncodeParams.ofFrame f).width <;>
      simp [Registry.encode, hencoder, splitEncoder, h]

/-- A registry with a decoder that cannot be opened beside one that can. -/
def halfBroken : Registry SyntheticDevices Bool where
  decoders := [syntheticDecoder (.plain true) .h264 0, syntheticDecoder .broken .mpeg4 1]
  encoder := some (splitEncoder 1)

lemma deviceFree_halfBroken : halfBroken.DeviceFree := by
  refine deviceFree_of_synthetic (fun decoder hdecoder => ?_) rfl
  obtain rfl | rfl : decoder = _ ∨ decoder = _ := by simpa [halfBroken] using hdecoder
  · exact ⟨.plain true, .h264, 0, by decide, rfl⟩
  · exact ⟨.broken, .mpeg4, 1, by decide, rfl⟩

/-- Two sessions, one of them configured; the other one fails and is ended. -/
def interleaved : List SessionOp :=
  [.handle ⟨"cam-1", .h264, 0, 3, 0, configPacket⟩, .handle ⟨"cam-2", .h264, 0, 1, 0, [9]⟩,
    .handle ⟨"cam-1", .mpeg4, 1, 1, 0, [5]⟩, .endSession "cam-2",
    .handle ⟨"cam-1", .h264, 2, 1, 0, [7]⟩, .handle ⟨"cam-2", .mpeg4, 1, 1, 0, eofPacket⟩]

/-- The first of the two sessions, with other numbers. -/
def alone : List SessionOp :=
  [.handle ⟨"cam-1", .h264, 4, 8, 5, configPacket⟩, .handle ⟨"cam-1", .mpeg4, 5, 1, 0, [5]⟩,
    .handle ⟨"cam-1", .h264, 6, 9, 8, [7]⟩]

theorem run_isolated_interleaved :
    let p : Pipeline SyntheticDevices Bool String :=
      { registry := halfBroken, mode := .perSession, dispatch := { consumer := some "disk" },
        devices := [{}, {}] }
    halfBroken.Behaves [{}, {}] (halfBroken.behaviourAt [{}, {}])
      ∧ (SessionOp.on "cam-1" interleaved).map SessionOp.unnumbered
        = (SessionOp.on "cam-1" alone).map SessionOp.unnumbered
      ∧ SessionAnswer.on "cam-1" interleaved (p.run interleaved).1
        = SessionAnswer.on "cam-1" alone (p.run alone).1
      ∧ SessionAnswer.received "cam-1" (p.run interleaved).1
        = SessionAnswer.received "cam-1" (p.run alone).1
      ∧ ((p.run interleaved).2.sessions.get? "cam-1").isSome
        = ((p.run alone).2.sessions.get? "cam-1").isSome := by
  have hops : (SessionOp.on "cam-1" interleaved).map SessionOp.unnumbered
      = (SessionOp.on "cam-1" alone).map SessionOp.unnumbered := rfl
  have hb := deviceFree_halfBroken.behaves [{}, {}]
  exact ⟨hb, hops,
    (run_isolated hb .perSession { consumer := some "disk" }).1 "cam-1" interleaved alone hops⟩

end SipStills
