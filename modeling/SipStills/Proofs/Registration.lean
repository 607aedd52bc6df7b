/-
# What the state of a registration tells about its history

The state of a registration is folded from reports.  This file reads it backwards: which reports
must have been there for the state to be what it is.

A snapshot is heard if it arrives while the state is not a failure; `Heard p reports after` says
that a snapshot with the property `p` was heard and that `after` came behind it.

* The state is a failure iff a refusal was heard and no attempt was started since
  (`ofHistory_eq_failed_iff`).
* A registration is held iff an active snapshot was heard and everything since then upholds it
  (`isRegistered_ofHistory_iff`).
* It is being renewed iff moreover a renewal was started behind the last such snapshot
  (`ofHistory_eq_renewing_iff`).

The proofs are inductions on the history from its end.  What one report does is said once, by
`apply_eq_failed_iff`, `isRegistered_apply_iff` and `apply_eq_renewing_iff`.
-/
import Mathlib.Data.List.Induction
import Mathlib.Order.WellFounded
import Mathlib.Tactic.Lemma
import SipStills.Registration

namespace SipStills

/-! ### Answers -/

namespace StatusCode

/-- The code says nothing final: there is no answer yet, or one in the hundreds. -/
def IsPending (s : StatusCode) : Prop :=
  s.code.toNat = 0 ∨ 100 ≤ s.code.toNat ∧ s.code.toNat < 200

/-- The code is final and not in the two hundreds. -/
def IsRefusal (s : StatusCode) : Prop :=
  ¬ s.IsPending ∧ ¬ (200 ≤ s.code.toNat ∧ s.code.toNat < 300)

lemma toNat_kind (s : StatusCode) : s.kind.toNat = s.code.toNat / 100 := by
  simp [kind]

lemma isSuccess_iff (s : StatusCode) :
    s.isSuccess = true ↔ 200 ≤ s.code.toNat ∧ s.code.toNat < 300 := by
  have hkind := s.toNat_kind
  rw [isSuccess, decide_eq_true_iff, ← UInt16.toNat_inj, hkind]
  have htwo : (2 : UInt16).toNat = 2 := rfl
  omega

lemma isPending_iff (s : StatusCode) :
    s.IsPending ↔ (decide (s.code = 0) || s.isProvisional) = true := by
  have hkind := s.toNat_kind
  rw [Bool.or_eq_true, decide_eq_true_iff, isProvisional, decide_eq_true_iff,
    ← UInt16.toNat_inj, ← UInt16.toNat_inj, hkind, IsPending]
  have hzero : (0 : UInt16).toNat = 0 := rfl
  have hone : (1 : UInt16).toNat = 1 := rfl
  omega

lemma IsPending.not_isSuccess {s : StatusCode} (h : s.IsPending) : ¬ s.isSuccess = true := by
  intro hsuccess
  have hrange := s.isSuccess_iff.1 hsuccess
  unfold IsPending at h
  omega

lemma IsRefusal.not_isSuccess {s : StatusCode} (h : s.IsRefusal) : ¬ s.isSuccess = true :=
  fun hsuccess => h.2 (s.isSuccess_iff.1 hsuccess)

end StatusCode

namespace AccountInfo

/-- The registrar of the account has not given a final answer. -/
def IsPending (i : AccountInfo) : Prop := i.configured = true ∧ i.status.IsPending

/-- The registrar of the account has refused with this status. -/
def Refuses (i : AccountInfo) (c : StatusCode) : Prop :=
  i.configured = true ∧ i.status = c ∧ c.IsRefusal

lemma isSuccess_of_isActive {i : AccountInfo} (h : i.isActive = true) :
    i.status.isSuccess = true := by
  simp only [isActive, Bool.and_eq_true] at h
  exact h.2

lemma IsPending.not_isActive {i : AccountInfo} (h : i.IsPending) : ¬ i.isActive = true :=
  fun hactive => h.2.not_isSuccess (isSuccess_of_isActive hactive)

lemma Refuses.not_isActive {i : AccountInfo} {c : StatusCode} (h : i.Refuses c) :
    ¬ i.isActive = true := by
  obtain ⟨-, rfl, hrefusal⟩ := h
  exact fun hactive => hrefusal.not_isSuccess (isSuccess_of_isActive hactive)

lemma Refuses.not_isPending {i : AccountInfo} {c : StatusCode} (h : i.Refuses c) :
    ¬ i.IsPending := by
  obtain ⟨-, rfl, hrefusal⟩ := h
  exact fun hpending => hrefusal.1 hpending.2

end AccountInfo

namespace RegState

/-- The last attempt was refused. -/
def IsFailed (s : RegState) : Prop := ∃ c, s = .failed c

lemma not_isFailed_of_isRegistered {s : RegState} (h : s.isRegistered = true) :
    ¬ s.IsFailed := by
  rintro ⟨c, rfl⟩
  exact absurd h (by simp [isRegistered])

/-! ### One report -/

@[simp] lemma onInfo_failed (c : StatusCode) (i : AccountInfo) :
    (failed c).onInfo i = .failed c := rfl

/-- What a snapshot that is heard does. -/
lemma onInfo_of_not_isFailed {s : RegState} (hs : ¬ s.IsFailed) (i : AccountInfo) :
    (i.configured = false ∧ s.onInfo i = .unregistered)
      ∨ (i.IsPending ∧ s.onInfo i = s)
      ∨ (i.Refuses i.status ∧ s.onInfo i = .failed i.status)
      ∨ (i.configured = true ∧ i.status.isSuccess = true
        ∧ s.onInfo i = if i.isActive then .registered else .unregistered) := by
  have heq : s.onInfo i =
      if !i.configured then .unregistered
      else if i.status.code = 0 || i.status.isProvisional then s
      else if !i.status.isSuccess then .failed i.status
      else if i.isActive then .registered
      else .unregistered := by
    cases s with
    | failed c => exact absurd ⟨c, rfl⟩ hs
    | unregistered | registering | registered | renewing => rfl
  rw [heq]
  cases hconfigured : i.configured with
  | false => exact .inl ⟨rfl, rfl⟩
  | true =>
    refine .inr ?_
    by_cases hpending : i.status.IsPending
    · have hp := i.status.isPending_iff.1 hpending
      exact .inl ⟨⟨hconfigured, hpending⟩, by simp [hp]⟩
    · have hp : ¬ (decide (i.status.code = 0) || i.status.isProvisional) = true :=
        fun h => hpending (i.status.isPending_iff.2 h)
      by_cases hsuccess : i.status.isSuccess = true
      · exact .inr (.inr ⟨rfl, hsuccess, by simp [hp, hsuccess]⟩)
      · have hrefusal : i.status.IsRefusal :=
          ⟨hpending, fun h => hsuccess (i.status.isSuccess_iff.2 h)⟩
        exact .inr (.inl ⟨⟨hconfigured, rfl, hrefusal⟩, by simp [hp, hsuccess]⟩)

lemma onStarted_ne_failed (s : RegState) (renew : Bool) (c : StatusCode) :
    s.onStarted renew ≠ .failed c := by
  cases s <;> cases renew <;> simp [onStarted]

lemma onStarted_eq_renewing_iff (s : RegState) (renew : Bool) :
    s.onStarted renew = .renewing ↔ renew = true ∧ s.isRegistered = true := by
  cases s <;> cases renew <;> simp [onStarted, isRegistered]

lemma isRegistered_onStarted (s : RegState) (renew : Bool) :
    (s.onStarted renew).isRegistered = true ↔ renew = true ∧ s.isRegistered = true := by
  cases s <;> cases renew <;> simp [onStarted, isRegistered]

end RegState

/-- A registration that is held stays held under this report. -/
def RegReport.Upholds : RegReport → Prop
  | .started renew => renew = true
  | .info i => i.IsPending ∨ i.isActive = true

namespace RegState

/-- A snapshot with the property is heard. -/
def Hears (s : RegState) (p : AccountInfo → Prop) (report : RegReport) : Prop :=
  ∃ i, report = .info i ∧ p i ∧ ¬ s.IsFailed

/-- A failure is what a refusal leads to, or it was there and no attempt was started. -/
lemma apply_eq_failed_iff (s : RegState) (report : RegReport) (c : StatusCode) :
    s.apply report = .failed c ↔
      s.Hears (·.Refuses c) report
        ∨ (∀ renew, report ≠ .started renew) ∧ s = .failed c := by
  cases report with
  | started renew =>
    have hne := s.onStarted_ne_failed renew c
    simp [apply, Hears, hne]
  | info i =>
    by_cases hs : s.IsFailed
    · obtain ⟨c', rfl⟩ := hs
      simp [apply, Hears, IsFailed]
    · have hne : s ≠ .failed c := fun h => hs ⟨c, h⟩
      suffices s.onInfo i = .failed c ↔ i.Refuses c by simpa [apply, Hears, hs, hne]
      rcases onInfo_of_not_isFailed hs i with
        ⟨hconf, h⟩ | ⟨hpending, h⟩ | ⟨hrefuses, h⟩ | ⟨-, hsuccess, h⟩
      · simp [h, AccountInfo.Refuses, hconf]
      · rw [h]
        refine ⟨fun heq => absurd heq hne, fun hrefuses => ?_⟩
        exact absurd hpending hrefuses.not_isPending
      · rw [h]
        refine ⟨fun heq => ?_, fun heq => by rw [heq.2.1]⟩
        obtain rfl := RegState.failed.inj heq
        exact hrefuses
      · rw [h]
        refine ⟨fun heq => ?_, fun hrefuses => ?_⟩
        · split at heq <;> exact absurd heq (by simp)
        · exact absurd (hrefuses.2.1 ▸ hsuccess) hrefuses.2.2.not_isSuccess

/-- A registration is held when it is granted, or when it was held and the report upholds it. -/
lemma isRegistered_apply_iff (s : RegState) (report : RegReport) :
    (s.apply report).isRegistered = true ↔
      s.Hears (·.isActive = true) report ∨ report.Upholds ∧ s.isRegistered = true := by
  cases report with
  | started renew => simp [apply, Hears, isRegistered_onStarted, RegReport.Upholds]
  | info i =>
    by_cases hs : s.IsFailed
    · obtain ⟨c, rfl⟩ := hs
      simp [apply, Hears, isRegistered, IsFailed]
    · suffices (s.onInfo i).isRegistered = true ↔
          i.isActive = true ∨ (i.IsPending ∨ i.isActive = true) ∧ s.isRegistered = true by
        simpa [apply, Hears, hs, RegReport.Upholds]
      rcases onInfo_of_not_isFailed hs i with
        ⟨hconf, h⟩ | ⟨hpending, h⟩ | ⟨hrefuses, h⟩ | ⟨-, hsuccess, h⟩
      · simp [h, isRegistered, AccountInfo.isActive, AccountInfo.IsPending, hconf]
      · simp [h, hpending, hpending.not_isActive]
      · simp [h, isRegistered, hrefuses.not_isPending, hrefuses.not_isActive]
      · have hpending : ¬ i.IsPending := fun hp => hp.2.not_isSuccess hsuccess
        by_cases hactive : i.isActive = true <;> simp [h, isRegistered, hpending, hactive]

/-- A renewal begins where a registration is held, and goes on while there is no final answer. -/
lemma apply_eq_renewing_iff (s : RegState) (report : RegReport) :
    s.apply report = .renewing ↔
      report = .started true ∧ s.isRegistered = true
        ∨ ∃ i, report = .info i ∧ i.IsPending ∧ s = .renewing := by
  cases report with
  | started renew => simp [apply, onStarted_eq_renewing_iff]
  | info i =>
    by_cases hs : s.IsFailed
    · obtain ⟨c, rfl⟩ := hs
      simp [apply]
    · suffices s.onInfo i = .renewing ↔ i.IsPending ∧ s = .renewing by simpa [apply]
      rcases onInfo_of_not_isFailed hs i with
        ⟨hconf, h⟩ | ⟨hpending, h⟩ | ⟨hrefuses, h⟩ | ⟨-, hsuccess, h⟩
      · simp [h, AccountInfo.IsPending, hconf]
      · simp [h, hpending]
      · simp [h, hrefuses.not_isPending]
      · have hpending : ¬ i.IsPending := fun hp => hp.2.not_isSuccess hsuccess
        by_cases hactive : i.isActive = true <;> simp [h, hpending, hactive]

/-! ### Histories -/

lemma ofHistory_concat (reports : List RegReport) (report : RegReport) :
    ofHistory (reports ++ [report]) = (ofHistory reports).apply report := by
  simp [ofHistory]

/-- In the history, a snapshot with the property was heard, and `after` came behind it. -/
def Heard (p : AccountInfo → Prop) (reports after : List RegReport) : Prop :=
  ∃ before i, reports = before ++ .info i :: after ∧ p i ∧ ¬ (ofHistory before).IsFailed

lemma not_heard_nil (p : AccountInfo → Prop) (after : List RegReport) : ¬ Heard p [] after := by
  rintro ⟨before, i, h, -⟩
  exact absurd h (by simp)

/-- The snapshot is the last report, or it was heard before the last report. -/
lemma heard_concat_iff (p : AccountInfo → Prop) (reports : List RegReport) (report : RegReport)
    (after : List RegReport) :
    Heard p (reports ++ [report]) after ↔
      after = [] ∧ (ofHistory reports).Hears p report
        ∨ ∃ rest, after = rest ++ [report] ∧ Heard p reports rest := by
  constructor
  · rintro ⟨before, i, hsplit, hp, hheard⟩
    rcases List.eq_nil_or_concat after with rfl | ⟨rest, last, rfl⟩
    · obtain ⟨rfl, hlast⟩ := List.append_inj' hsplit rfl
      exact .inl ⟨rfl, i, by simpa using hlast, hp, hheard⟩
    · rw [List.concat_eq_append, ← List.cons_append, ← List.append_assoc] at hsplit
      obtain ⟨rfl, hlast⟩ := List.append_inj' hsplit rfl
      obtain rfl : report = last := by simpa using hlast
      exact .inr ⟨rest, by simp, before, i, rfl, hp, hheard⟩
  · rintro (⟨rfl, i, rfl, hp, hheard⟩ | ⟨rest, rfl, before, i, rfl, hp, hheard⟩)
    · exact ⟨reports, i, rfl, hp, hheard⟩
    · exact ⟨before, i, by simp, hp, hheard⟩

/-- The account has failed iff a refusal was heard and no attempt was started since. -/
lemma ofHistory_eq_failed_iff (reports : List RegReport) (c : StatusCode) :
    ofHistory reports = .failed c ↔
      ∃ after, Heard (·.Refuses c) reports after ∧ ∀ renew, .started renew ∉ after := by
  induction reports using List.reverseRecOn with
  | nil => simp [ofHistory, not_heard_nil]
  | append_singleton reports report ih =>
    rw [ofHistory_concat, apply_eq_failed_iff, ih]
    constructor
    · rintro (hhears | ⟨hreport, after, hheard, hafter⟩)
      · exact ⟨[], (heard_concat_iff _ _ _ _).2 (.inl ⟨rfl, hhears⟩), by simp⟩
      · have hlast := (heard_concat_iff _ _ report _).2 (.inr ⟨after, rfl, hheard⟩)
        refine ⟨after ++ [report], hlast, fun renew hmem => ?_⟩
        rcases List.mem_append.1 hmem with hmem | hmem
        · exact hafter renew hmem
        · exact hreport renew (List.mem_singleton.1 hmem).symm
    · rintro ⟨after, hheard, hafter⟩
      rcases (heard_concat_iff _ _ _ _).1 hheard with ⟨-, hhears⟩ | ⟨rest, rfl, hrest⟩
      · exact .inl hhears
      · refine .inr ⟨fun renew hreport => hafter renew (by simp [hreport]), rest, hrest, ?_⟩
        exact fun renew hmem => hafter renew (List.mem_append_left _ hmem)

/-- A registration was granted, `after` came behind it, and all of this upholds it. -/
def Granted (reports after : List RegReport) : Prop :=
  Heard (·.isActive = true) reports after ∧ ∀ report ∈ after, report.Upholds

/-- What came behind the snapshot that granted the registration last. -/
def GrantedLast (reports after : List RegReport) : Prop :=
  Granted reports after ∧ ∀ after', Granted reports after' → after.length ≤ after'.length

lemma granted_concat_iff (reports : List RegReport) (report : RegReport)
    (after : List RegReport) :
    Granted (reports ++ [report]) after ↔
      after = [] ∧ (ofHistory reports).Hears (·.isActive = true) report
        ∨ report.Upholds ∧ ∃ rest, after = rest ++ [report] ∧ Granted reports rest := by
  simp only [Granted, heard_concat_iff]
  constructor
  · rintro ⟨⟨rfl, hhears⟩ | ⟨rest, rfl, hrest⟩, hupholds⟩
    · exact .inl ⟨rfl, hhears⟩
    · refine .inr ⟨hupholds report (by simp), rest, rfl, hrest, ?_⟩
      exact fun r hr => hupholds r (List.mem_append_left _ hr)
  · rintro (⟨rfl, hhears⟩ | ⟨hreport, rest, rfl, hrest, hupholds⟩)
    · exact ⟨.inl ⟨rfl, hhears⟩, by simp⟩
    · refine ⟨.inr ⟨rest, rfl, hrest⟩, fun r hr => ?_⟩
      rcases List.mem_append.1 hr with hr | hr
      · exact hupholds r hr
      · exact List.mem_singleton.1 hr ▸ hreport

/-- A registration is held iff it was granted and everything since then upholds it. -/
lemma isRegistered_ofHistory_iff (reports : List RegReport) :
    (ofHistory reports).isRegistered = true ↔ ∃ after, Granted reports after := by
  induction reports using List.reverseRecOn with
  | nil => simp [ofHistory, isRegistered, Granted, not_heard_nil]
  | append_singleton reports report ih =>
    simp only [ofHistory_concat, isRegistered_apply_iff, ih, granted_concat_iff]
    constructor
    · rintro (hhears | ⟨hreport, rest, hrest⟩)
      · exact ⟨[], .inl ⟨rfl, hhears⟩⟩
      · exact ⟨rest ++ [report], .inr ⟨hreport, rest, rfl, hrest⟩⟩
    · rintro ⟨after, ⟨-, hhears⟩ | ⟨hreport, rest, -, hrest⟩⟩
      · exact .inl hhears
      · exact .inr ⟨hreport, rest, hrest⟩

/-- If a registration was granted, it was granted a last time. -/
lemma exists_grantedLast {reports after : List RegReport} (h : Granted reports after) :
    ∃ last, GrantedLast reports last := by
  obtain ⟨last, hlast, hmin⟩ :=
    (measure List.length).wf.has_min {after | Granted reports after} ⟨after, h⟩
  exact ⟨last, hlast, fun after' h' => not_lt.1 (hmin after' h')⟩

/-- Where the last report grants nothing, the last grant stays the last one. -/
lemma grantedLast_concat_iff {reports : List RegReport} {report : RegReport}
    (hreport : ¬ (ofHistory reports).Hears (·.isActive = true) report)
    (after : List RegReport) :
    GrantedLast (reports ++ [report]) after ↔
      report.Upholds ∧ ∃ rest, after = rest ++ [report] ∧ GrantedLast reports rest := by
  simp only [GrantedLast, granted_concat_iff, hreport, and_false, false_or]
  constructor
  · rintro ⟨⟨hupholds, rest, rfl, hrest⟩, hlast⟩
    refine ⟨hupholds, rest, rfl, hrest, fun after' h' => ?_⟩
    have hle := hlast (after' ++ [report]) ⟨hupholds, after', rfl, h'⟩
    simpa using hle
  · rintro ⟨hupholds, rest, rfl, hrest, hlast⟩
    refine ⟨⟨hupholds, rest, rfl, hrest⟩, ?_⟩
    rintro after' ⟨-, rest', rfl, h'⟩
    simpa using hlast rest' h'

/-- A registration is being renewed iff a renewal was started behind the last grant. -/
lemma ofHistory_eq_renewing_iff (reports : List RegReport) :
    ofHistory reports = .renewing ↔
      ∃ after, GrantedLast reports after ∧ .started true ∈ after := by
  induction reports using List.reverseRecOn with
  | nil => simp [ofHistory, GrantedLast, Granted, not_heard_nil]
  | append_singleton reports report ih =>
    rw [ofHistory_concat, apply_eq_renewing_iff]
    by_cases hhears : (ofHistory reports).Hears (·.isActive = true) report
    · -- the last report is the last grant, and nothing came behind it
      have hgranted : Granted (reports ++ [report]) [] :=
        (granted_concat_iff _ _ _).2 (.inl ⟨rfl, hhears⟩)
      obtain ⟨i, rfl, hactive, -⟩ := hhears
      constructor
      · rintro (⟨hstarted, -⟩ | ⟨i', hi, hpending, -⟩)
        · exact absurd hstarted (by simp)
        · obtain rfl := RegReport.info.inj hi
          exact absurd hactive hpending.not_isActive
      · rintro ⟨after, ⟨-, hlast⟩, hmem⟩
        have hnil : after = [] := List.length_eq_zero_iff.1 (Nat.le_zero.1 (hlast [] hgranted))
        exact absurd hmem (by simp [hnil])
    · simp only [grantedLast_concat_iff hhears]
      cases report with
      | started renew =>
        constructor
        · rintro (⟨hrenew, hregistered⟩ | ⟨i, hi, -⟩)
          · obtain rfl : renew = true := RegReport.started.inj hrenew
            obtain ⟨after, hafter⟩ := (isRegistered_ofHistory_iff reports).1 hregistered
            obtain ⟨last, hlast⟩ := exists_grantedLast hafter
            exact ⟨last ++ [.started true], ⟨rfl, last, rfl, hlast⟩, by simp⟩
          · exact absurd hi (by simp)
        · rintro ⟨after, ⟨hrenew, rest, -, hrest⟩, -⟩
          obtain rfl : renew = true := hrenew
          exact .inl ⟨rfl, (isRegistered_ofHistory_iff reports).2 ⟨rest, hrest.1⟩⟩
      | info i =>
        constructor
        · rintro (⟨hi, -⟩ | ⟨i', hi, hpending, hrenewing⟩)
          · exact absurd hi (by simp)
          · obtain rfl := RegReport.info.inj hi
            obtain ⟨last, hlast, hmem⟩ := ih.1 hrenewing
            exact ⟨last ++ [.info i], ⟨.inl hpending, last, rfl, hlast⟩,
              List.mem_append_left _ hmem⟩
        · rintro ⟨after, ⟨hupholds, rest, rfl, hrest⟩, hmem⟩
          have hregistered := (isRegistered_ofHistory_iff reports).2 ⟨rest, hrest.1⟩
          -- an active snapshot would have been heard
          have hpending : i.IsPending := hupholds.resolve_right fun hactive =>
            hhears ⟨i, rfl, hactive, not_isFailed_of_isRegistered hregistered⟩
          exact .inr ⟨i, rfl, hpending, ih.2 ⟨rest, hrest, by simpa using hmem⟩⟩

/-- Snapshots alone do not clear a failure. -/
lemma ofHistory_append_map_info {reports : List RegReport} {c : StatusCode}
    (h : ofHistory reports = .failed c) (infos : List AccountInfo) :
    ofHistory (reports ++ infos.map .info) = .failed c := by
  induction infos using List.reverseRecOn with
  | nil => simpa using h
  | append_singleton infos i ih =>
    rw [List.map_append, ← List.append_assoc]
    simp only [List.map_cons, List.map_nil, ofHistory_concat, ih]
    rfl

/-- The state of a registration is what its history makes it.

* It is the failure with status `c` iff a snapshot in which the registrar refuses with `c` was
  heard and no attempt was started since.
* A registration is held iff an active snapshot was heard and all that came behind it are
  renewals, snapshots without a final answer and active snapshots.
* It is being renewed iff a renewal was started behind the last snapshot of which this is true.

Snapshots alone never clear a failure. -/
theorem ofHistory_determines (reports : List RegReport) :
    (∀ c, ofHistory reports = .failed c ↔
        ∃ after, Heard (·.Refuses c) reports after ∧ ∀ renew, .started renew ∉ after)
      ∧ ((ofHistory reports).isRegistered = true ↔ ∃ after, Granted reports after)
      ∧ (ofHistory reports = .renewing ↔
        ∃ after, GrantedLast reports after ∧ .started true ∈ after)
      ∧ ∀ c, ofHistory reports = .failed c →
        ∀ infos : List AccountInfo, ofHistory (reports ++ infos.map .info) = .failed c :=
  ⟨ofHistory_eq_failed_iff reports, isRegistered_ofHistory_iff reports,
    ofHistory_eq_renewing_iff reports, fun _ h infos => ofHistory_append_map_info h infos⟩

end RegState
end SipStills
