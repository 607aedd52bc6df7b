/-
# What the handlers are told

To say whom the agent has told what, the observers have to write it down.  They keep notes of their
own already, so that no second kind of run is needed for that: the observers `Observers.booking`
write each report that they are told of into a book beside their notes, and then do what they do
anyhow.

Keeping the book changes nothing else about a run, and the book holds the reports that the agent
has accepted, in order and each of them once (`World.run_booking`).  A report that comes in while
another one is being handled stands behind it.
-/
import SipStills.Proofs.Agent.Runs

namespace SipStills

variable {δ κ γ σ : Type}

/-- Reports with the accounts that they are about, the oldest first. -/
abbrev Told := List (AccountId × RegReport)

/-- What an observer does that has a book beside its notes, and leaves it alone. -/
def Reaction.besideBook : Reaction γ σ → Reaction γ (σ × Told)
  | .done => .done
  | .abort => .abort
  | .note change next => .note (fun x => (change x.1, x.2)) next.besideBook
  | .look next => .look fun x => (next x.1).besideBook
  | .ask request next => .ask request fun answer => (next answer).besideBook
  | .raise stimulus next => .raise stimulus fun known => (next known).besideBook

/-- What a handler does that first writes down what it is told. -/
def Reaction.booking (id : AccountId) (report : RegReport) (r : Reaction γ σ) :
    Reaction γ (σ × Told) :=
  .note (fun x => (x.1, x.2 ++ [(id, report)])) r.besideBook

namespace Observers

/-- The observers whose handlers write down what they are told. -/
def booking (o : Observers γ σ) : Observers γ (σ × Told) where
  started := o.started.map fun f id renew => (f id renew).booking id (.started renew)
  answered := o.answered.map fun f id snapshot => (f id snapshot).booking id (.info snapshot)
  consume := fun consumer callee data => (o.consume consumer callee data).besideBook

/-- Whether there is a handler for reports of this kind. -/
def hears (o : Observers γ σ) : RegReport → Bool
  | .started _ => o.started.isSome
  | .info _ => o.answered.isSome

lemma onReport_booking_of_hears {o : Observers γ σ} {report : RegReport}
    (h : o.hears report = true) (id : AccountId) :
    o.booking.onReport id report = (o.onReport id report).booking id report := by
  cases report with
  | started renew =>
    obtain ⟨f, hf⟩ := Option.isSome_iff_exists.1 h
    simp [onReport, booking, hf]
  | info snapshot =>
    obtain ⟨f, hf⟩ := Option.isSome_iff_exists.1 h
    simp [onReport, booking, hf]

/-- Where there is no handler, nothing is done. -/
lemma onReport_of_not_hears {o : Observers γ σ} {report : RegReport} (h : o.hears report = false)
    (id : AccountId) :
    o.onReport id report = .done ∧ o.booking.onReport id report = .done := by
  cases report with
  | started renew =>
    have hnone : o.started = none := by simpa [hears] using h
    simp [onReport, booking, hnone]
  | info snapshot =>
    have hnone : o.answered = none := by simpa [hears] using h
    simp [onReport, booking, hnone]

end Observers

/-- The report that was accepted, if the entry is about one. -/
def AccountEvent.report? : AccountEvent → Option (AccountId × RegReport)
  | .reported id report => some (id, report)
  | _ => none

namespace Observers

/-- The accepted reports for which there is a handler. -/
def heard (o : Observers γ σ) (events : List AccountEvent) : Told :=
  (events.filterMap AccountEvent.report?).filter fun x => o.hears x.2

variable (o : Observers γ σ)

@[simp] lemma heard_nil : o.heard [] = [] := rfl

@[simp] lemma heard_append (events events' : List AccountEvent) :
    o.heard (events ++ events') = o.heard events ++ o.heard events' := by
  simp [heard]

lemma heard_reported (id : AccountId) (report : RegReport) (events : List AccountEvent) :
    o.heard (.reported id report :: events)
      = (if o.hears report then [(id, report)] else []) ++ o.heard events := by
  cases h : o.hears report <;> simp [heard, AccountEvent.report?, h]

/-- Requests call no handlers. -/
@[simp] lemma heard_request (a : Agent δ κ γ) (r : Request γ) (answer : r.Answer) :
    o.heard (r.events a answer) = [] := by
  cases r with
  | createAccount settings makeDefault =>
    rcases answer with _ | id
    · rfl
    · rfl
  | shutdown id =>
    rcases answer with _ | _
    · rfl
    · simp only [Request.events]
      split
      · rfl
      · rfl
  | destroy =>
    simp only [Request.events]
    split
    · rfl
    · rfl
  | _ => rfl

end Observers

namespace World

/-- A world whose observers have a book beside their notes. -/
def withBook (book : Told) (w : World δ κ γ σ) : World δ κ γ (σ × Told) where
  agent := w.agent
  inFlight := w.inFlight
  notes := (w.notes, book)

@[simp] lemma agent_withBook (book : Told) (w : World δ κ γ σ) :
    (w.withBook book).agent = w.agent := rfl

@[simp] lemma enter_withBook (t : ThreadId) (book : Told) (w : World δ κ γ σ) :
    (w.withBook book).enter t = (w.enter t).withBook book := rfl

@[simp] lemma leave_withBook (t : ThreadId) (book : Told) (w : World δ κ γ σ) :
    (w.withBook book).leave t = (w.leave t).withBook book := rfl

/-- However notifications are raised, the reports that are accepted go into the book and nothing
else is different. -/
def Books (o : Observers γ σ) (raiseB : Raise δ κ γ (σ × Told)) (raise : Raise δ κ γ σ)
    (raised : RaiseEvents δ κ γ σ) : Prop :=
  ∀ stimulus w book,
    raiseB stimulus (w.withBook book)
      = ((raise stimulus w).1, (raise stimulus w).2.withBook (book ++ o.heard (raised stimulus w)))

section

variable {o : Observers γ σ} {raiseB : Raise δ κ γ (σ × Told)} {raise' : Raise δ κ γ σ}
  {raised : RaiseEvents δ κ γ σ}

lemma react_besideBook (h : Books o raiseB raise' raised) (t : ThreadId) (r : Reaction γ σ)
    (w : World δ κ γ σ) (book : Told) :
    react raiseB t r.besideBook (w.withBook book)
      = ((react raise' t r w).1,
          (react raise' t r w).2.withBook (book ++ o.heard (reactEvents raise' raised t r w))) := by
  induction r generalizing w book with
  | done => simp [Reaction.besideBook, react, reactEvents]
  | abort => simp [Reaction.besideBook, react, reactEvents]
  | note change next ih => exact ih { w with notes := change w.notes } book
  | look next ih => exact ih w.notes w book
  | ask request next ih =>
    have hnext := ih (w.agent.perform t request).1
      { w with agent := (w.agent.perform t request).2 } book
    simp only [reactEvents, Observers.heard_append, Observers.heard_request, List.nil_append]
    exact hnext
  | raise stimulus next ih =>
    -- what is raised goes into the book before anything that the rest of the reaction causes
    have hnext := ih (raise' stimulus w).1 (raise' stimulus w).2
      (book ++ o.heard (raised stimulus w))
    simp only [Reaction.besideBook, react, reactEvents, h stimulus w book, Observers.heard_append]
    rw [← List.append_assoc]
    exact hnext

lemma offerAll_booking (h : Books o raiseB raise' raised) (t : ThreadId) (callee : String)
    (data : List Bytes) (w : World δ κ γ σ) (book : Told) :
    offerAll o.booking raiseB t callee data (w.withBook book)
      = (offerAll o raise' t callee data w).withBook
          (book ++ o.heard (offerEvents o raise' raised t callee data w)) := by
  induction data generalizing w book with
  | nil => simp [offerAll, offerEvents]
  | cons still rest ih =>
    unfold offerAll offerEvents
    rw [agent_withBook]
    cases w.agent.pipeline.dispatch.consumer with
    | none => exact ih (w.mapDispatch Dispatch.countDiscarded) book
    | some consumer =>
      have hreact := react_besideBook h t (o.consume consumer callee still) w book
      have hconsume : o.booking.consume consumer callee still
          = (o.consume consumer callee still).besideBook := rfl
      simp only [hconsume, hreact, Observers.heard_append]
      rcases react raise' t (o.consume consumer callee still) w with ⟨_ | _, w'⟩
      · -- the consumer has broken off, and the stills behind this one are dropped
        simp
      · rw [← List.append_assoc]
        exact ih (w'.mapDispatch Dispatch.countDelivered) _

lemma process_booking (h : Books o raiseB raise' raised) (t : ThreadId) (n : Notification)
    (w : World δ κ γ σ) (book : Told) :
    (w.withBook book).process o.booking raiseB t n
      = (w.process o raise' t n).withBook
          (book ++ o.heard (w.processEvents o raise' raised t n)) := by
  cases n with
  | report id report =>
    cases henter : w.agent.enter? id report with
    | none =>
      rw [process_of_none henter, processEvents_of_none henter,
        process_of_none (w := w.withBook book) henter]
      simp
    | some agent =>
      rw [process_of_some henter, processEvents_of_some henter,
        process_of_some (w := w.withBook book) henter, Observers.heard_reported]
      cases hhears : o.hears report with
      | true =>
        -- the handler first writes the report down
        have hreact := react_besideBook h t (o.onReport id report) { w with agent }
          (book ++ [(id, report)])
        rw [Observers.onReport_booking_of_hears hhears, if_pos rfl, ← List.append_assoc]
        exact congrArg Prod.snd hreact
      | false =>
        obtain ⟨hplain, hbooking⟩ := Observers.onReport_of_not_hears hhears id
        simp [hplain, hbooking, react, reactEvents, withBook]
  | decode event =>
    simp only [process, processEvents, agent_withBook]
    rcases w.agent.pipeline.prepare event with ⟨outcome | data, pipeline⟩
    · simp [withBook]
    · exact offerAll_booking h t event.callee data
        { w with agent := { w.agent with pipeline } } book

lemma deliver_booking (h : Books o raiseB raise' raised) (t : ThreadId) (n : Notification)
    (w : World δ κ γ σ) (book : Told) :
    (w.withBook book).deliver o.booking raiseB t n
      = (w.deliver o raise' t n).withBook
          (book ++ o.heard (w.deliverEvents o raise' raised t n)) := by
  cases hgone : w.agent.gone with
  | true => simp [deliver, deliverEvents, hgone]
  | false =>
    cases hclosing : w.agent.closing with
    | true => simp [deliver, deliverEvents, hgone, hclosing]
    | false =>
      have hprocess := process_booking h t n (w.enter t) book
      simp [deliver, deliverEvents, hgone, hclosing, hprocess]

end

lemma books_raise (o : Observers γ σ) (limit : Nat) (t : ThreadId) :
    Books (δ := δ) (κ := κ) o (raise o.booking limit t) (raise o limit t)
      (raiseEvents o limit t) := by
  induction limit with
  | zero =>
    intro stimulus w book
    simp [raise, raiseEvents]
  | succ limit ih =>
    intro stimulus w book
    cases stimulus with
    | started id renew => exact congrArg (true, ·) (deliver_booking ih t _ w book)
    | decode event => exact congrArg (true, ·) (deliver_booking ih t _ w book)
    | answered id status expires =>
      simp only [raise, raiseEvents, agent_withBook]
      cases w.agent.engine.answer id status expires with
      | none => simp
      | some x =>
        exact congrArg (true, ·) (deliver_booking ih t (.report id (.info x.1))
          { w with agent := { w.agent with engine := x.2 } } book)

lemma notify_booking (o : Observers γ σ) (limit : Nat) (t : ThreadId) (n : Notification)
    (w : World δ κ γ σ) (book : Told) :
    (w.withBook book).notify o.booking limit t n
      = (w.notify o limit t n).withBook (book ++ o.heard (w.notifyEvents o limit t n)) :=
  deliver_booking (books_raise o limit t) t n w book

lemma step_booking (o : Observers γ σ) (limit : Nat) (op : AgentOp γ) (w : World δ κ γ σ)
    (book : Told) :
    (w.withBook book).step o.booking limit op
      = (w.step o limit op).withBook (book ++ o.heard (w.stepEvents o limit op)) := by
  cases op with
  | ask t request =>
    simp only [step, stepEvents, Observers.heard_request, List.append_nil]
    rfl
  | notify t n => exact notify_booking o limit t n w book
  | raise t stimulus => exact congrArg Prod.snd (books_raise o limit t stimulus w book)
  | foreign t known call =>
    simp only [step, stepEvents, World.foreign]
    cases call.notification? with
    | none => simp
    | some n =>
      cases known with
      | false => simp
      | true => exact notify_booking o limit t n w book
  | engine change =>
    simp only [step, stepEvents, Observers.heard_nil, List.append_nil]
    rfl
  | drop =>
    simp only [step, stepEvents, Observers.heard_nil, List.append_nil]
    rfl

/-- Keeping the book changes nothing else about a run, and the book holds the reports that were
accepted. -/
lemma run_booking (o : Observers γ σ) (limit : Nat) (ops : List (AgentOp γ)) (w : World δ κ γ σ)
    (book : Told) :
    (w.withBook book).run o.booking limit ops
      = (w.run o limit ops).withBook (book ++ o.heard (w.runEvents o limit ops)) := by
  induction ops generalizing w book with
  | nil => simp [run, runEvents]
  | cons op ops ih =>
    have hrest := ih (w.step o limit op) (book ++ o.heard (w.stepEvents o limit op))
    simp only [run, List.foldl_cons, runEvents, Observers.heard_append] at hrest ⊢
    rw [step_booking, hrest, List.append_assoc]

end World
end SipStills
