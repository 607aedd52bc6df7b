/-
# Records of accounts

The record of an account is made of reports: those about it that the agent has accepted since the
account was entered into the directory, and no others (`Agent.Trace.get?_directory`).  The reports
are found in the history of the accounts (`reportsSince`), and what a history has to say about one
account does not depend on what it says about the others.

An agent accepts a report about an account that is in its directory or that its engine holds
(`Agent.Accepts`).  A report that it does not accept leaves no trace
(`World.notify_of_not_accepts`), and one that it does accept is entered before anything that its
handler causes (`World.notifyEvents_of_accepts`).
-/
import Mathlib.Data.List.Induction
import SipStills.Proofs.Agent.Handlers

namespace SipStills

variable {δ κ γ σ : Type}

/-! ### The record that reports make -/

/-- The snapshot that a report brings. -/
def RegReport.snapshot? : RegReport → Option AccountInfo
  | .started _ => none
  | .info snapshot => some snapshot

namespace AccountRecord

/-- The record that the reports make, the oldest of which comes first: the state of the registration
is that after all of them, and the snapshot is the last one. -/
def ofReports (reports : List RegReport) : AccountRecord where
  state := .ofHistory reports
  info := (reports.filterMap RegReport.snapshot?).getLast?

lemma ofReports_nil : ofReports [] = {} := rfl

lemma ofReports_append_singleton (reports : List RegReport) (report : RegReport) :
    ofReports (reports ++ [report]) = (ofReports reports).apply report := by
  have hstate : RegState.ofHistory (reports ++ [report])
      = (RegState.ofHistory reports).apply report := by
    simp [RegState.ofHistory, List.foldl_append]
  cases report with
  | started renew => simp [ofReports, apply, hstate, RegReport.snapshot?]
  | info snapshot => simp [ofReports, apply, hstate, RegReport.snapshot?]

end AccountRecord

/-! ### The reports about an account -/

namespace AccountEvent

/-- The reports about an account after an entry, if it is in the directory.  One that is there
already is not entered anew. -/
def follow (id : AccountId) (known : Option (List RegReport)) :
    AccountEvent → Option (List RegReport)
  | .created j => if j = id then some (known.getD []) else known
  | .reported j report => if j = id then some (known.getD [] ++ [report]) else known
  | .removed j => if j = id then none else known
  | .cleared => none

/-- The entry says something about the account. -/
def concerns (id : AccountId) : AccountEvent → Bool
  | .created j => j = id
  | .reported j _ => j = id
  | .removed j => j = id
  | .cleared => true

/-- The entry puts the account into the directory, unless it is there. -/
def inserts (id : AccountId) : AccountEvent → Bool
  | .created j => j = id
  | .reported j _ => j = id
  | _ => false

/-- The entry drops the account from the directory. -/
def drops (id : AccountId) : AccountEvent → Bool
  | .removed j => j = id
  | .cleared => true
  | _ => false

/-- The report, if the entry is one about the account. -/
def reportOn? (id : AccountId) : AccountEvent → Option RegReport
  | .reported j report => if j = id then some report else none
  | _ => none

lemma follow_of_not_concerns {id : AccountId} {e : AccountEvent} (h : e.concerns id = false)
    (known : Option (List RegReport)) : follow id known e = known := by
  cases e with
  | created j | reported j report | removed j =>
    have hj : j ≠ id := by simpa [concerns] using h
    simp [follow, hj]
  | cleared => exact absurd h (by simp [concerns])

lemma follow_of_drops {id : AccountId} {e : AccountEvent} (h : e.drops id = true)
    (known : Option (List RegReport)) : follow id known e = none := by
  cases e with
  | removed j =>
    have hj : j = id := by simpa [drops] using h
    simp [follow, hj]
  | cleared => rfl
  | created j | reported j report => exact absurd h (by simp [drops])

lemma follow_none_of_inserts {id : AccountId} {e : AccountEvent} (h : e.inserts id = true) :
    follow id none e = some ([e].filterMap (·.reportOn? id)) := by
  cases e with
  | created j =>
    have hj : j = id := by simpa [inserts] using h
    simp [follow, reportOn?, hj]
  | reported j report =>
    have hj : j = id := by simpa [inserts] using h
    simp [follow, reportOn?, hj]
  | removed j | cleared => exact absurd h (by simp [inserts])

lemma follow_none_of_not_inserts {id : AccountId} {e : AccountEvent} (h : e.inserts id = false) :
    follow id none e = none := by
  cases e with
  | created j | reported j report =>
    have hj : j ≠ id := by simpa [inserts] using h
    simp [follow, hj]
  | removed j => simp [follow]
  | cleared => rfl

lemma follow_some_of_not_drops {id : AccountId} {e : AccountEvent} (h : e.drops id = false)
    (reports : List RegReport) :
    follow id (some reports) e = some (reports ++ [e].filterMap (·.reportOn? id)) := by
  cases e with
  | created j => simp [follow, reportOn?]
  | reported j report => by_cases hj : j = id <;> simp [follow, reportOn?, hj]
  | removed j =>
    have hj : j ≠ id := by simpa [drops] using h
    simp [follow, reportOn?, hj]
  | cleared => exact absurd h (by simp [drops])

/-- An entry does to the record of an account what it does to the reports about it. -/
lemma get?_applyTo {d : Directory} {id : AccountId} {known : Option (List RegReport)}
    (h : d.get? id = known.map .ofReports) (e : AccountEvent) :
    (e.applyTo d).get? id = (follow id known e).map .ofReports := by
  cases e with
  | created j =>
    rw [applyTo, Directory.get?_insert, follow]
    by_cases hj : id = j
    · subst hj
      cases known <;> simp [h, AccountRecord.ofReports_nil]
    · have hj' : j ≠ id := fun e => hj e.symm
      simp [hj, hj', h]
  | reported j report =>
    rw [applyTo, Directory.get?_modify, follow]
    by_cases hj : id = j
    · subst hj
      have happly (reports : List RegReport) :=
        AccountRecord.ofReports_append_singleton reports report
      rw [Directory.get?_insert]
      cases known with
      | none => simpa [h, AccountRecord.ofReports_nil] using (happly []).symm
      | some reports => simpa [h] using (happly reports).symm
    · have hj' : j ≠ id := fun e => hj e.symm
      simp [hj, hj', Directory.get?_insert, h]
  | removed j =>
    rw [applyTo, Directory.get?_remove, follow]
    by_cases hj : id = j
    · simp [hj]
    · have hj' : j ≠ id := fun e => hj e.symm
      simp [hj, hj', h]
  | cleared => rfl

end AccountEvent

/-- The reports about an account since it was entered into the directory, the oldest first; nothing
if it is not in the directory. -/
def reportsSince (id : AccountId) (events : List AccountEvent) : Option (List RegReport) :=
  events.foldl (AccountEvent.follow id) none

lemma reportsSince_append_singleton (id : AccountId) (events : List AccountEvent)
    (e : AccountEvent) :
    reportsSince id (events ++ [e]) = e.follow id (reportsSince id events) := by
  simp [reportsSince, List.foldl_append]

/-- Only what is said about an account matters. -/
lemma reportsSince_filter (id : AccountId) (events : List AccountEvent) :
    reportsSince id (events.filter (·.concerns id)) = reportsSince id events := by
  induction events using List.reverseRecOn with
  | nil => rfl
  | append_singleton events e ih =>
    rw [List.filter_append, reportsSince_append_singleton]
    cases h : e.concerns id with
    | true => simp [h, reportsSince_append_singleton, ih]
    | false => simp [h, ih, AccountEvent.follow_of_not_concerns h]

/-- The reports about an account from the entry on that puts it into the directory, as long as it is
not dropped. -/
lemma reportsSince_of_inserts {id : AccountId} {before after : List AccountEvent} {e : AccountEvent}
    (hbefore : reportsSince id before = none) (hinserts : e.inserts id = true)
    (hafter : ∀ x ∈ after, x.drops id = false) :
    reportsSince id (before ++ e :: after)
      = some ((e :: after).filterMap (·.reportOn? id)) := by
  induction after using List.reverseRecOn with
  | nil =>
    rw [reportsSince_append_singleton, hbefore, AccountEvent.follow_none_of_inserts hinserts]
  | append_singleton after last ih =>
    have hlast : last.drops id = false := hafter last (by simp)
    have hrest := ih fun x hx => hafter x (by simp [hx])
    rw [← List.cons_append, ← List.append_assoc, reportsSince_append_singleton, hrest,
      AccountEvent.follow_some_of_not_drops hlast, List.filterMap_append]

/-- An account is in the directory if there is an entry that has put it there, and behind that
entry no other that drops it; the reports about it are those from that entry on. -/
lemma reportsSince_eq_some_iff {id : AccountId} {events : List AccountEvent}
    {reports : List RegReport} :
    reportsSince id events = some reports
      ↔ ∃ (before : List AccountEvent) (e : AccountEvent) (after : List AccountEvent),
          events = before ++ e :: after
            ∧ reportsSince id before = none ∧ e.inserts id = true
            ∧ (∀ x ∈ after, x.drops id = false)
            ∧ reports = (e :: after).filterMap (·.reportOn? id) := by
  constructor
  · intro h
    induction events using List.reverseRecOn generalizing reports with
    | nil => exact absurd h (by simp [reportsSince])
    | append_singleton events e ih =>
      rw [reportsSince_append_singleton] at h
      cases hknown : reportsSince id events with
      | none =>
        -- the last entry is the one that puts the account into the directory
        rw [hknown] at h
        cases hinserts : e.inserts id with
        | false =>
          rw [AccountEvent.follow_none_of_not_inserts hinserts] at h
          exact absurd h (by simp)
        | true =>
          rw [AccountEvent.follow_none_of_inserts hinserts] at h
          exact ⟨events, e, [], rfl, hknown, hinserts, by simp, (Option.some.inj h).symm⟩
      | some known =>
        -- it was put there before, and the last entry does not drop it
        obtain ⟨before, first, after, rfl, hbefore, hinserts, hafter, rfl⟩ := ih hknown
        have hdrops : e.drops id = false := by
          rw [← Bool.not_eq_true]
          intro hdrops
          rw [AccountEvent.follow_of_drops hdrops] at h
          exact absurd h (by simp)
        rw [hknown, AccountEvent.follow_some_of_not_drops hdrops] at h
        refine ⟨before, first, after ++ [e], by simp, hbefore, hinserts, ?_, ?_⟩
        · intro x hx
          rcases List.mem_append.1 hx with hx | hx
          · exact hafter x hx
          · rwa [List.mem_singleton.1 hx]
        · rw [← Option.some.inj h, ← List.cons_append, List.filterMap_append]
  · rintro ⟨before, e, after, rfl, hbefore, hinserts, hafter, rfl⟩
    exact reportsSince_of_inserts hbefore hinserts hafter

namespace Agent

/-- The record of an account is the one that the reports about it make. -/
lemma Trace.get?_directory {a a' : Agent δ κ γ} {events : List AccountEvent}
    (h : Trace a events a') (hnew : a.IsNew) (id : AccountId) :
    a'.directory.get? id = (reportsSince id events).map .ofReports := by
  rw [h.directory, hnew.directory]
  clear h
  induction events using List.reverseRecOn with
  | nil => rfl
  | append_singleton events e ih =>
    rw [List.foldl_append, reportsSince_append_singleton]
    exact AccountEvent.get?_applyTo ih e

/-- An account has a record if an entry has put it into the directory and no other entry has dropped
it since; the reports about it from that entry on make the record. -/
lemma Trace.get?_directory_eq_some_iff {a a' : Agent δ κ γ} {events : List AccountEvent}
    (h : Trace a events a') (hnew : a.IsNew) {id : AccountId} {record : AccountRecord} :
    a'.directory.get? id = some record
      ↔ ∃ (before : List AccountEvent) (e : AccountEvent) (after : List AccountEvent),
          events = before ++ e :: after
            ∧ reportsSince id before = none ∧ e.inserts id = true
            ∧ (∀ x ∈ after, x.drops id = false)
            ∧ record = .ofReports ((e :: after).filterMap (·.reportOn? id)) := by
  rw [h.get?_directory hnew, Option.map_eq_some_iff]
  constructor
  · rintro ⟨reports, hreports, rfl⟩
    obtain ⟨before, e, after, hevents, hbefore, hinserts, hafter, rfl⟩ :=
      reportsSince_eq_some_iff.1 hreports
    exact ⟨before, e, after, hevents, hbefore, hinserts, hafter, rfl⟩
  · rintro ⟨before, e, after, hevents, hbefore, hinserts, hafter, rfl⟩
    have hreports := reportsSince_eq_some_iff.2
      ⟨before, e, after, hevents, hbefore, hinserts, hafter, rfl⟩
    exact ⟨_, hreports, rfl⟩

/-- An account that the engine hands out and that is in the directory already keeps its record. -/
lemma get?_createAccount {a : Agent δ κ γ} {t : ThreadId} {settings : AccountSettings}
    {makeDefault : Bool} {id : AccountId} {record : AccountRecord}
    (hanswer : (a.createAccount t settings makeDefault).1 = .ok id)
    (hrecord : a.directory.get? id = some record) :
    (a.createAccount t settings makeDefault).2.directory.get? id = some record := by
  have hbooks := (keepsBooks_createAccount t settings makeDefault a).directory
  rw [hanswer] at hbooks
  rw [hbooks]
  simp [Request.events, AccountEvent.applyTo, Directory.get?_insert, hrecord]

/-! ### Acceptance -/

/-- The agent accepts reports about the account: it is there, its teardown has not begun, and the
account is in its directory or is one that its engine holds. -/
def Accepts (a : Agent δ κ γ) (id : AccountId) : Prop :=
  a.gone = false ∧ a.closing = false
    ∧ (a.directory.contains id = true ∨ a.engine.holds id = true)

lemma enter?_isSome (a : Agent δ κ γ) (id : AccountId) (report : RegReport) :
    (a.enter? id report).isSome = true
      ↔ a.directory.contains id = true ∨ a.engine.holds id = true := by
  unfold enter? adopt?
  split
  · rename_i h
    simp [h]
  · rename_i h
    split
    · rename_i hholds
      simp [hholds]
    · rename_i hholds
      simp [h, hholds]

end Agent

namespace World

variable {w : World δ κ γ σ} {id : AccountId}

/-- A report that is accepted is entered before anything that is entered because of it. -/
lemma notifyEvents_of_accepts (h : w.agent.Accepts id) (o : Observers γ σ) (limit : Nat)
    (t : ThreadId) (report : RegReport) :
    ∃ events, w.notifyEvents o limit t (.report id report) = .reported id report :: events := by
  obtain ⟨hgone, hclosing, hknown⟩ := h
  have hsome : ((w.enter t).agent.enter? id report).isSome = true := by
    rw [Agent.enter?_isSome]
    simpa [enter] using hknown
  obtain ⟨agent, henter⟩ := Option.isSome_iff_exists.1 hsome
  simp only [notifyEvents, deliverEvents, hgone, hclosing, processEvents_of_some henter]
  exact ⟨_, rfl⟩

/-- A report that is not accepted is not entered, and no handler is called: nothing happens but that
its thread is registered, and not even that if the agent is gone. -/
lemma notify_of_not_accepts (h : ¬ w.agent.Accepts id) (o : Observers γ σ) (limit : Nat)
    (t : ThreadId) (report : RegReport) :
    w.notifyEvents o limit t (.report id report) = []
      ∧ w.notify o limit t (.report id report)
          = if w.agent.gone then w else { w with agent := w.agent.ensureThread t } := by
  cases hgone : w.agent.gone with
  | true => simp [notifyEvents, deliverEvents, notify, deliver, hgone]
  | false =>
    cases hclosing : w.agent.closing with
    | true =>
      refine ⟨?_, ?_⟩
      · simp [notifyEvents, deliverEvents, hclosing]
      · rw [notify, deliver_of_closing hclosing, hgone]
    | false =>
      have hunknown : (w.enter t).agent.enter? id report = none := by
        rw [← Option.not_isSome_iff_eq_none, Agent.enter?_isSome]
        intro hknown
        exact h ⟨hgone, hclosing, by simpa [enter] using hknown⟩
      refine ⟨?_, ?_⟩
      · simp [notifyEvents, deliverEvents, hgone, hclosing, processEvents_of_none hunknown]
      · simp [notify, deliver, hgone, hclosing, process_of_none hunknown, leave_enter]

/-- Records follow reports.  In every run of a new agent,

* an account has a record if it was entered at some point, not being in the directory before, and
  was not dropped since; the record is the one that the reports about it make which were accepted
  from then on;
* what was said about other accounts does not matter;
* the handlers were told of the reports that were accepted, in order and once of each, as far as
  there is a handler for them;
* an account that is created while it is in the directory keeps its record;
* a report is entered if it is accepted, and otherwise leaves no trace. -/
theorem records_follow_reports {w : World δ κ γ σ} (h : w.agent.IsNew) (o : Observers γ σ)
    (limit : Nat) (ops : List (AgentOp γ)) :
    let w' := w.run o limit ops
    let events := w.runEvents o limit ops
    (∀ (id : AccountId) (record : AccountRecord),
      w'.agent.directory.get? id = some record
        ↔ ∃ (before : List AccountEvent) (e : AccountEvent) (after : List AccountEvent),
            events = before ++ e :: after
              ∧ reportsSince id before = none ∧ e.inserts id = true
              ∧ (∀ x ∈ after, x.drops id = false)
              ∧ record = .ofReports ((e :: after).filterMap (·.reportOn? id)))
    ∧ (∀ id : AccountId,
        w'.agent.directory.get? id
          = (reportsSince id (events.filter (·.concerns id))).map .ofReports)
    ∧ (w.withBook []).run o.booking limit ops = w'.withBook (o.heard events)
    ∧ (∀ (t : ThreadId) (settings : AccountSettings) (makeDefault : Bool) (id : AccountId)
        (record : AccountRecord),
        (w'.agent.createAccount t settings makeDefault).1 = .ok id →
        w'.agent.directory.get? id = some record →
        (w'.agent.createAccount t settings makeDefault).2.directory.get? id = some record)
    ∧ ∀ (o' : Observers γ σ) (t : ThreadId) (id : AccountId) (report : RegReport),
        (w'.agent.Accepts id →
          ∃ caused, w'.notifyEvents o' limit t (.report id report) = .reported id report :: caused)
        ∧ (¬ w'.agent.Accepts id →
          w'.notifyEvents o' limit t (.report id report) = []
            ∧ w'.notify o' limit t (.report id report)
                = if w'.agent.gone then w'
                  else { w' with agent := w'.agent.ensureThread t }) := by
  intro w' events
  have htrace : Agent.Trace w.agent events w'.agent := trace_run o limit w ops
  refine ⟨fun id record => htrace.get?_directory_eq_some_iff h, fun id => ?_, ?_, ?_, ?_⟩
  · rw [reportsSince_filter]
    exact htrace.get?_directory h id
  · exact run_booking o limit ops w []
  · intro t settings makeDefault id record hanswer hrecord
    exact Agent.get?_createAccount hanswer hrecord
  · intro o' t id report
    exact ⟨fun haccepts => notifyEvents_of_accepts haccepts o' limit t report,
      fun hnot => notify_of_not_accepts hnot o' limit t report⟩

/-- An agent whose engine holds two accounts that the agent has not heard of. -/
def unheard : World Unit Unit Unit Unit where
  agent :=
    { engine :=
        { state := .running
          accounts := [⟨0, 300, { configured := true }⟩, ⟨1, 300, { configured := true }⟩]
          nextAccount := 2 }
      pipeline := { registry := {}, devices := () } }
  notes := ()

/-- Observers that let the registrar of one account answer as soon as an attempt starts for the
other one, and break off then. -/
def hasty : Observers Unit Unit where
  started := some fun id _ => .raise (.answered (if id = 0 then 1 else 0) .ok 300) fun _ => .done
  answered := some fun _ _ => .abort

/-- Reports about three accounts, one of which nobody knows; another one is shut down. -/
def someReports : List (AgentOp Unit) :=
  [.notify 1 (.report 0 (.started false)), .notify 1 (.report 7 (.started false)),
    .ask 1 (.shutdown 0), .notify 2 (.report 1 (.started true))]

theorem records_follow_reports_hasty :
    let answer : RegReport := .info (Engine.answered { configured := true } .ok 300)
    let w' := unheard.run hasty 2 someReports
    unheard.runEvents hasty 2 someReports
        = [.reported 0 (.started false), .reported 1 answer, .removed 0,
            .reported 1 (.started true)]
    ∧ unheard.agent.IsNew
    ∧ w'.agent.directory.get? 0 = none
    ∧ w'.agent.directory.get? 1 = some (.ofReports [answer, .started true])
    ∧ (AccountRecord.ofReports [answer, .started true]).state = .renewing
    ∧ ((unheard.withBook []).run hasty.booking 2 someReports).notes.2
        = [(0, .started false), (1, answer), (1, .started true)] := by
  have hnew : unheard.agent.IsNew := ⟨rfl, rfl, rfl⟩
  have hevents : unheard.runEvents hasty 2 someReports
      = [.reported 0 (.started false),
          .reported 1 (.info (Engine.answered { configured := true } .ok 300)), .removed 0,
          .reported 1 (.started true)] := by
    decide
  obtain ⟨-, hrecords, hbook, -⟩ := records_follow_reports hnew hasty 2 someReports
  have hzero := hrecords 0
  have hone := hrecords 1
  rw [hevents] at hzero hone hbook
  refine ⟨hevents, hnew, hzero, hone, by decide, ?_⟩
  rw [hbook]
  rfl

end World
end SipStills
