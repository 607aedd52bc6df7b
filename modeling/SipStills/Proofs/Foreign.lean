/-
# What the calls of a foreign engine come to

A foreign engine hands over memory, and an agent is notified of what this memory means.  This file
says what that is without reading the memory the way the agent does: `ForeignEvent.to` writes a
packet as a foreign engine does, and `ForeignInfo.Means` compares a snapshot with its meaning field
by field.

* A name in the buffer is read back if it has no zero and is not too long.  It may fill the buffer
  to its last byte: then no zero marks its end (`calleeId_to`).
* Preparing a packet of one callee leaves the session of any other alone, and does not depend on it
  (`Pipeline.spares_of_ne`).
* A status below the range of a status code says nothing, and one above it is a refusal
  (`regState_of_low`, `regState_of_high`).

Together, each call is the notification that is meant, or nothing at all
(`World.foreign_is_notify`).
-/
import SipStills.Foreign
import SipStills.Proofs.Agent.Reach
import SipStills.Proofs.Pipeline.Steps
import SipStills.Proofs.Registration
import SipStills.Proofs.Text.Utf8

namespace SipStills

variable {δ κ γ σ : Type}

/-! ### Lent memory -/

/-- The memory lends these bytes: none if the address is null or the length is not positive, and
otherwise as many as the length says. -/
inductive ForeignBytes.Lends : ForeignBytes → Bytes → Prop where
  | null (length : Int) : Lends ⟨none, length⟩ []
  | empty (memory : Option Bytes) {length : Int} (hlength : length ≤ 0) : Lends ⟨memory, length⟩ []
  | lent (bytes behind : Bytes) : Lends ⟨some (bytes ++ behind), bytes.length⟩ bytes

lemma ForeignBytes.Lends.bytes_eq {b : ForeignBytes} {bytes : Bytes} (h : b.Lends bytes) :
    b.bytes = bytes := by
  cases h with
  | null length => rfl
  | empty memory hlength =>
    cases memory with
    | none => rfl
    | some bs =>
      show bs.take _ = []
      rw [Int.toNat_of_nonpos hlength, List.take_zero]
  | lent bytes behind =>
    show (bytes ++ behind).take _ = bytes
    rw [Int.toNat_natCast, List.take_left]

/-! ### Names -/

/-- The name of a callee can be handed over: it has no zero, and it is not longer than the
buffer. -/
structure FitsBuffer (name : String) : Prop where
  noZero : '\x00' ∉ name.toList
  fits : (Text.Utf8.encode name.toList).length ≤ calleeSize

/-- A packet for a callee, whose name stands in a buffer of zeros. -/
def ForeignEvent.to (callee : String) (codec index total remaining : Int32)
    (payload : ForeignBytes) : ForeignEvent where
  callee := calleeBuffer (Text.Utf8.encode callee.toList)
  codec := codec
  index := index
  total := total
  remaining := remaining
  payload := payload

/-- What is read of a buffer with enough room: the bytes in front of the first zero. -/
lemma takeWhile_calleeBuffer {bytes : Bytes} (hzero : 0 ∉ bytes)
    (hlength : bytes.length ≤ calleeSize) :
    ((calleeBuffer bytes).take calleeSize).takeWhile (· != 0) = bytes := by
  have hbuffer : calleeBuffer bytes = bytes ++ List.replicate (calleeSize - bytes.length) 0 := by
    rw [calleeBuffer, List.take_of_length_le hlength]
  have hsize : (calleeBuffer bytes).length ≤ calleeSize := by
    rw [hbuffer, List.length_append, List.length_replicate]
    omega
  have hname : ∀ b ∈ bytes, (b != 0) = true := fun b hb => by
    simpa using fun heq : b = 0 => hzero (heq ▸ hb)
  rw [List.take_of_length_le hsize, hbuffer, List.takeWhile_append_of_pos hname]
  -- nothing of the zeros is taken, be there any or not
  simp

/-- A name that fits the buffer is read back. -/
lemma FitsBuffer.calleeId_to {name : String} (h : FitsBuffer name)
    (codec index total remaining : Int32) (payload : ForeignBytes) :
    (ForeignEvent.to name codec index total remaining payload).calleeId = name := by
  have hbytes := takeWhile_calleeBuffer (Text.Utf8.zero_notMem_encode h.noZero) h.fits
  rw [ForeignEvent.calleeId, ForeignEvent.to, hbytes, Text.Utf8.lenient_encode,
    String.ofList_toList]

lemma FitsBuffer.toEvent_to {name : String} (h : FitsBuffer name)
    (codec index total remaining : Int32) {payload : ForeignBytes} {bytes : Bytes}
    (hpayload : payload.Lends bytes) :
    (ForeignEvent.to name codec index total remaining payload).toEvent
      = { callee := name, codec := ⟨codec⟩, index, total, remaining, payload := bytes } := by
  rw [ForeignEvent.toEvent, h.calleeId_to]
  simp only [ForeignEvent.to, hpayload.bytes_eq]

/-! ### Snapshots -/

attribute [ext] AccountInfo

/-- The snapshot means this one, field by field. -/
structure ForeignInfo.Means (f : ForeignInfo) (i : AccountInfo) : Prop where
  isDefault : i.isDefault = true ↔ f.isDefault ≠ 0
  uri : i.uri = f.uri.text
  configured : i.configured = true ↔ 0 < f.hasRegistration
  expires : i.expires = f.expires
  status : (i.status.code.toNat : Int) = max 0 (min f.status 65535)
  statusText : i.statusText = f.statusText.text
  lastError : i.lastError = f.lastError
  online : i.online = true ↔ f.online ≠ 0
  onlineText : i.onlineText = f.onlineText.text

/-- A number becomes the nearest one that a status code can have. -/
lemma StatusCode.toNat_code_ofInt (n : Int) :
    ((StatusCode.ofInt n).code.toNat : Int) = max 0 (min n 65535) := by
  have hcode : (StatusCode.ofInt n).code.toNat = min n.toNat 65535 :=
    UInt16.toNat_ofNat_of_lt' (by show _ < 65536; omega)
  rw [hcode]
  omega

namespace ForeignInfo

variable {f : ForeignInfo} {i : AccountInfo}

lemma means_toInfo (f : ForeignInfo) : f.Means f.toInfo where
  isDefault := bne_iff_ne
  uri := rfl
  configured := decide_eq_true_iff
  expires := rfl
  status := StatusCode.toNat_code_ofInt f.status
  statusText := rfl
  lastError := rfl
  online := bne_iff_ne
  onlineText := rfl

/-- A snapshot has one meaning. -/
lemma Means.toInfo_eq (h : f.Means i) : f.toInfo = i := by
  have hinfo := f.means_toInfo
  have hstatus : f.toInfo.status = i.status := by
    have hnat := hinfo.status.trans h.status.symm
    have hcode := UInt16.toNat_inj.1 (Int.ofNat_inj.1 hnat)
    exact congrArg StatusCode.mk hcode
  have hdefault : f.toInfo.isDefault = i.isDefault :=
    Bool.eq_iff_iff.2 (hinfo.isDefault.trans h.isDefault.symm)
  have hconfigured : f.toInfo.configured = i.configured :=
    Bool.eq_iff_iff.2 (hinfo.configured.trans h.configured.symm)
  have honline : f.toInfo.online = i.online :=
    Bool.eq_iff_iff.2 (hinfo.online.trans h.online.symm)
  exact AccountInfo.ext hdefault h.uri.symm hconfigured h.expires.symm hstatus h.statusText.symm
    h.lastError.symm honline h.onlineText.symm

/-- A status that is not positive means the code of no answer. -/
lemma Means.isPending_of_low (h : f.Means i) (hstatus : f.status ≤ 0) : i.status.IsPending := by
  have hcode := h.status
  exact .inl (by omega)

/-- A status beyond all codes means the last code, which is a refusal. -/
lemma Means.refuses_iff_of_high (h : f.Means i) (hstatus : 65535 < f.status) (c : StatusCode) :
    i.Refuses c ↔ i.configured = true ∧ c = ⟨65535⟩ := by
  have hcode := h.status
  have hlast : i.status = ⟨65535⟩ := by
    have hnat : i.status.code.toNat = (65535 : UInt16).toNat := by
      show _ = 65535
      omega
    exact congrArg StatusCode.mk (UInt16.toNat_inj.1 hnat)
  have hrefusal : StatusCode.IsRefusal ⟨65535⟩ := by
    constructor
    · rintro (hzero | hprovisional)
      · exact absurd hzero (by decide)
      · exact absurd hprovisional (by decide)
    · decide
  constructor
  · rintro ⟨hconfigured, hsame, -⟩
    exact ⟨hconfigured, hsame.symm.trans hlast⟩
  · rintro ⟨hconfigured, rfl⟩
    exact ⟨hconfigured, hlast, hrefusal⟩

end ForeignInfo

namespace Agent

variable {a b : Agent δ κ γ} {id : AccountId} {f : ForeignInfo} {i : AccountInfo}

/-- A report that is entered is applied to the state of the registration. -/
lemma regState_enter? {report : RegReport} (hthere : a.gone = false)
    (h : a.enter? id report = some b) : b.regState id = (a.regState id).apply report := by
  have hgone : b.gone = false := by
    rw [eq_of_enter? h]
    exact hthere
  rw [regState, regState, hthere, hgone, directory_enter? h, Directory.get?_modify, if_pos rfl,
    Directory.get?_insert, if_pos rfl]
  cases a.directory.get? id <;> rfl

lemma regState_of_low (hmeans : f.Means i) (hstatus : f.status ≤ 0) (hthere : a.gone = false)
    (h : a.enter? id (.info i) = some b) (c : StatusCode) :
    b.regState id = .failed c ↔ a.regState id = .failed c := by
  have hpending := hmeans.isPending_of_low hstatus
  rw [regState_enter? hthere h, RegState.apply_eq_failed_iff]
  constructor
  · rintro (⟨j, hj, hrefuses, -⟩ | ⟨-, hfailed⟩)
    · obtain rfl := RegReport.info.inj hj
      exact absurd hpending (hrefuses.2.1 ▸ hrefuses.2.2.1)
    · exact hfailed
  · exact fun hfailed => .inr ⟨by simp, hfailed⟩

lemma regState_of_high (hmeans : f.Means i) (hstatus : 65535 < f.status)
    (hthere : a.gone = false) (h : a.enter? id (.info i) = some b) (c : StatusCode) :
    b.regState id = .failed c ↔
      a.regState id = .failed c
        ∨ ¬ (a.regState id).IsFailed ∧ i.configured = true ∧ c = ⟨65535⟩ := by
  rw [regState_enter? hthere h, RegState.apply_eq_failed_iff]
  constructor
  · rintro (⟨j, hj, hrefuses, hheard⟩ | ⟨-, hfailed⟩)
    · obtain rfl := RegReport.info.inj hj
      exact .inr ⟨hheard, (hmeans.refuses_iff_of_high hstatus c).1 hrefuses⟩
    · exact .inl hfailed
  · rintro (hfailed | ⟨hheard, hlast⟩)
    · exact .inr ⟨by simp, hfailed⟩
    · exact .inl ⟨i, rfl, (hmeans.refuses_iff_of_high hstatus c).2 hlast, hheard⟩

end Agent

/-! ### Calls -/

namespace World

/-- A call of a foreign engine is the notification that is meant.

* A packet that is handed over with a name that fits the buffer notifies of the packet with this
  name and with the bytes that are lent.
* Packets with different names are packets of different callees, and neither touches or sees the
  session of the other.
* A snapshot has a meaning, and notifies of it.  If it is entered, then a status that is not
  positive leaves it open whether the registration has failed, and one beyond all status codes is a
  refusal, unless the registration has failed before or no registrar is configured.
* The start of an attempt notifies of it.
* A call that names no agent has no effect, and neither has one without its snapshot or packet. -/
theorem foreign_is_notify (o : Observers γ σ) (limit : Nat) (t : ThreadId) (w : World δ κ γ σ) :
    (∀ name, FitsBuffer name → ∀ codec index total remaining payload bytes,
      ForeignBytes.Lends payload bytes →
        w.foreign o limit t true (.decode (some (.to name codec index total remaining payload)))
          = w.notify o limit t
              (.decode ⟨name, ⟨codec⟩, index, total, remaining, bytes⟩))
    ∧ (∀ name other, FitsBuffer name → FitsBuffer other → name ≠ other →
        ∀ codec index total remaining payload codec' index' total' remaining' payload',
        let e := ForeignEvent.to name codec index total remaining payload
        let e' := ForeignEvent.to other codec' index' total' remaining' payload'
        e.calleeId ≠ e'.calleeId
          ∧ ∀ p : Pipeline δ κ γ, p.Spares e'.calleeId e.toEvent)
    ∧ (∀ f : ForeignInfo, (∃ i, f.Means i) ∧ ∀ i, f.Means i →
        (∀ id, w.foreign o limit t true (.answered id (some f))
          = w.notify o limit t (.report id (.info i)))
        ∧ ∀ (a b : Agent δ κ γ) id, a.gone = false → a.enter? id (.info i) = some b → ∀ c,
            (f.status ≤ 0 → (b.regState id = .failed c ↔ a.regState id = .failed c))
            ∧ (65535 < f.status → (b.regState id = .failed c ↔ a.regState id = .failed c
                ∨ ¬ (a.regState id).IsFailed ∧ i.configured = true ∧ c = ⟨65535⟩)))
    ∧ (∀ id renew, w.foreign o limit t true (.started id renew)
        = w.notify o limit t (.report id (.started (renew != 0))))
    ∧ (∀ call, w.foreign o limit t false call = w)
    ∧ ∀ known id, w.foreign o limit t known (.answered id none) = w
        ∧ w.foreign o limit t known (.decode none) = w := by
  refine ⟨?_, ?_, ?_, fun id renew => rfl, ?_, fun known id => ⟨rfl, rfl⟩⟩
  · intro name hname codec index total remaining payload bytes hpayload
    show w.notify o limit t (.decode (ForeignEvent.toEvent _)) = _
    rw [hname.toEvent_to codec index total remaining hpayload]
  · intro name other hname hother hne codec index total remaining payload
      codec' index' total' remaining' payload'
    have hcallee : (ForeignEvent.to name codec index total remaining payload).calleeId
        ≠ (ForeignEvent.to other codec' index' total' remaining' payload').calleeId := by
      rw [hname.calleeId_to, hother.calleeId_to]
      exact hne
    exact ⟨hcallee, fun p => p.spares_of_ne hcallee⟩
  · intro f
    refine ⟨⟨f.toInfo, f.means_toInfo⟩, fun i hmeans => ⟨fun id => ?_, ?_⟩⟩
    · show w.notify o limit t (.report id (.info f.toInfo)) = _
      rw [hmeans.toInfo_eq]
    · intro a b id hthere henter c
      exact ⟨fun hlow => Agent.regState_of_low hmeans hlow hthere henter c,
        fun hhigh => Agent.regState_of_high hmeans hhigh hthere henter c⟩
  · intro call
    unfold foreign
    cases call.notification? <;> rfl

/-- A name that fills the buffer, with two bytes for each character. -/
def wideName : String := String.ofList (List.replicate 32 'é')

/-- Another name that does, with one byte for each character. -/
def narrowName : String := String.ofList (List.replicate 64 'e')

/-- A snapshot of an account with a registrar; its texts are null. -/
def snapshotOf (status : Int) : ForeignInfo where
  isDefault := 1
  uri := ⟨none, 0⟩
  hasRegistration := 1
  expires := 60
  status := status
  statusText := ⟨none, 0⟩
  lastError := 0
  online := -1
  onlineText := ⟨none, 0⟩

/-- An agent that knows one account. -/
def withAccount : Agent Unit Unit Unit := { bare.agent with directory := ⟨[(0, {})]⟩ }

theorem foreign_is_notify_full :
    (FitsBuffer wideName ∧ FitsBuffer narrowName ∧ wideName ≠ narrowName)
    ∧ (ForeignBytes.Lends ⟨some [1, 2, 3], 2⟩ [1, 2] ∧ ForeignBytes.Lends ⟨some [1], -1⟩ [])
    ∧ bare.foreign {} 1 7 true (.decode (some (.to wideName 27 0 2 0 ⟨some [1, 2, 3], 2⟩)))
      = bare.notify {} 1 7 (.decode ⟨wideName, ⟨27⟩, 0, 2, 0, [1, 2]⟩)
    ∧ bare.foreign {} 1 7 true (.decode (some (.to narrowName 27 0 2 0 ⟨some [1], -1⟩)))
      = bare.notify {} 1 7 (.decode ⟨narrowName, ⟨27⟩, 0, 2, 0, []⟩)
    ∧ bare.agent.pipeline.Spares narrowName
        (ForeignEvent.to wideName 27 0 2 0 ⟨none, 0⟩).toEvent
    ∧ (snapshotOf 70000).Means (snapshotOf 70000).toInfo
    ∧ (∃ b, withAccount.enter? 0 (.info (snapshotOf 70000).toInfo) = some b
      ∧ b.regState 0 = .failed ⟨65535⟩)
    ∧ ∃ b, withAccount.enter? 0 (.info (snapshotOf (-5)).toInfo) = some b
      ∧ ∀ c, b.regState 0 ≠ .failed c := by
  have hwide : FitsBuffer wideName := by
    constructor <;>
    · unfold wideName
      rw [String.toList_ofList]
      decide +kernel
  have hnarrow : FitsBuffer narrowName := by
    constructor <;>
    · unfold narrowName
      rw [String.toList_ofList]
      decide +kernel
  have hne : wideName ≠ narrowName := by
    intro heq
    have hlists : List.replicate 32 'é' = List.replicate 64 'e' := String.ofList_injective heq
    exact absurd hlists (by decide +kernel)
  have hlent : ForeignBytes.Lends ⟨some [1, 2, 3], 2⟩ [1, 2] := .lent [1, 2] [3]
  have hempty : ForeignBytes.Lends ⟨some [1], -1⟩ [] := .empty _ (by decide)
  obtain ⟨hpacket, hother, hsnapshot, -⟩ := foreign_is_notify {} 1 7 bare
  obtain ⟨-, hspares⟩ :=
    hother wideName narrowName hwide hnarrow hne 27 0 2 0 ⟨none, 0⟩ 27 0 2 0 ⟨none, 0⟩
  obtain ⟨-, hhigh⟩ := (hsnapshot (snapshotOf 70000)).2 _ (snapshotOf 70000).means_toInfo
  obtain ⟨-, hlow⟩ := (hsnapshot (snapshotOf (-5))).2 _ (snapshotOf (-5)).means_toInfo
  have hunknown : withAccount.regState 0 = .unregistered := rfl
  refine ⟨⟨hwide, hnarrow, hne⟩, ⟨hlent, hempty⟩, ?_, ?_, ?_, ?_, ?_, ?_⟩
  · exact hpacket wideName hwide 27 0 2 0 _ _ hlent
  · exact hpacket narrowName hnarrow 27 0 2 0 _ _ hempty
  · have hspared := hspares bare.agent.pipeline
    rwa [hnarrow.calleeId_to] at hspared
  · exact (snapshotOf 70000).means_toInfo
  · refine ⟨_, rfl, ?_⟩
    refine ((hhigh withAccount _ 0 rfl rfl ⟨65535⟩).2 (by decide)).2 (.inr ⟨?_, rfl, rfl⟩)
    rintro ⟨c, hc⟩
    exact absurd (hunknown.symm.trans hc) (by simp)
  · refine ⟨_, rfl, fun c hc => ?_⟩
    have hbefore := ((hlow withAccount _ 0 rfl rfl c).1 (by decide)).1 hc
    exact absurd (hunknown.symm.trans hbefore) (by simp)

end World
end SipStills
