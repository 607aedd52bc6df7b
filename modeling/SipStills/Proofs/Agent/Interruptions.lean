/-
# Observers that break off

A run in which observers break off is compared with one in which they do not.  Observers here only
keep notes (`Observers.Quiet`): they ask the agent for nothing and raise nothing.  Which of their
calls they break off from may depend on their notes in any way.

At any time the two agents are alike (`Agent.Alike`): they differ in nothing but the number of
stills that were delivered.  And what happens next is the same in both runs, except that the stills
of one event which are left when the consumer breaks off are not dispatched (`Interrupted`).
-/
import SipStills.Proofs.Agent.Reach
import SipStills.Proofs.Agent.Teardown
import SipStills.Proofs.Pipeline.Recorded

namespace SipStills

variable {δ κ γ σ τ : Type}

/-! ### Quiet observers -/

namespace Reaction

/-- The reaction is to keep notes, and it may break off. -/
def Quiet : Reaction γ σ → Prop
  | .done => True
  | .abort => True
  | .note _ next => next.Quiet
  | .look next => ∀ notes, (next notes).Quiet
  | .ask _ _ => False
  | .raise _ _ => False

/-- The reaction is to keep notes, and it does not break off. -/
def Calm : Reaction γ σ → Prop
  | .done => True
  | .abort => False
  | .note _ next => next.Calm
  | .look next => ∀ notes, (next notes).Calm
  | .ask _ _ => False
  | .raise _ _ => False

lemma Calm.quiet {r : Reaction γ σ} (h : r.Calm) : r.Quiet := by
  induction r with
  | done => trivial
  | note change next ih => exact ih h
  | look next ih => exact fun notes => ih notes (h notes)
  | abort | ask request next ih | raise stimulus next ih => exact h.elim

end Reaction

/-- The observers only keep notes. -/
structure Observers.Quiet (o : Observers γ σ) : Prop where
  onReport : ∀ id report, (o.onReport id report).Quiet
  consume : ∀ consumer callee data, (o.consume consumer callee data).Quiet

/-- The observers only keep notes, and never break off. -/
structure Observers.Calm (o : Observers γ σ) : Prop where
  onReport : ∀ id report, (o.onReport id report).Calm
  consume : ∀ consumer callee data, (o.consume consumer callee data).Calm

lemma Observers.Calm.quiet {o : Observers γ σ} (h : o.Calm) : o.Quiet :=
  ⟨fun id report => (h.onReport id report).quiet,
    fun consumer callee data => (h.consume consumer callee data).quiet⟩

namespace World

variable (raise' : Raise δ κ γ σ) (raised : RaiseHistory δ κ γ σ) {r : Reaction γ σ}

/-- Who only keeps notes leaves everything else as it is. -/
lemma react_of_quiet (h : r.Quiet) (t : ThreadId) (w : World δ κ γ σ) :
    ∃ returns notes, react raise' t r w = (returns, { w with notes }) := by
  induction r generalizing w with
  | done => exact ⟨true, w.notes, rfl⟩
  | abort => exact ⟨false, w.notes, rfl⟩
  | note change next ih => exact ih h { w with notes := change w.notes }
  | look next ih => exact ih w.notes (h w.notes) w
  | ask request next ih | raise stimulus next ih => exact h.elim

lemma react_of_calm (h : r.Calm) (t : ThreadId) (w : World δ κ γ σ) :
    ∃ notes, react raise' t r w = (true, { w with notes }) := by
  induction r generalizing w with
  | done => exact ⟨w.notes, rfl⟩
  | note change next ih => exact ih h { w with notes := change w.notes }
  | look next ih => exact ih w.notes (h w.notes) w
  | abort | ask request next ih | raise stimulus next ih => exact h.elim

lemma reactHistory_of_quiet (h : r.Quiet) (t : ThreadId) (w : World δ κ γ σ) :
    reactHistory raise' raised t r w = [] := by
  induction r generalizing w with
  | done | abort => rfl
  | note change next ih => exact ih h { w with notes := change w.notes }
  | look next ih => exact ih w.notes (h w.notes) w
  | ask request next ih | raise stimulus next ih => exact h.elim

end World

/-! ### Agents that differ in how many stills were delivered -/

/-- The pipeline before any still was delivered. -/
def Pipeline.uncounted (p : Pipeline δ κ γ) : Pipeline δ κ γ :=
  { p with dispatch := { p.dispatch with delivered := 0 } }

/-- Decoding and encoding do not depend on what was delivered. -/
lemma Pipeline.prepare_uncounted (p : Pipeline δ κ γ) (e : DecodeEvent) :
    p.uncounted.prepare e = ((p.prepare e).1, (p.prepare e).2.uncounted) := by
  have hregistry : p.uncounted.registry = p.registry := rfl
  have hmode : p.uncounted.mode = p.mode := rfl
  unfold prepare
  simp only [hregistry, hmode]
  cases p.registry.decoder? e.codec with
  | none => rfl
  | some decoder =>
    cases p.mode with
    | perEvent =>
      have hdevices : p.uncounted.devices = p.devices := rfl
      simp only [prepareFresh, hdevices]
      rcases decoder.openContext p.devices with ⟨_ | context, devices⟩ <;> rfl
    | perSession =>
      have hsession : p.uncounted.sessionFor decoder e.callee e.codec
          = p.sessionFor decoder e.callee e.codec := rfl
      simp only [prepareInSession, hsession]
      rcases p.sessionFor decoder e.callee e.codec with ⟨_ | session, devices⟩ <;> rfl

namespace Agent

/-- The agent before any still was delivered. -/
def uncounted (a : Agent δ κ γ) : Agent δ κ γ := a.withPipeline a.pipeline.uncounted

/-- The agents are the same but for the number of stills that were delivered. -/
def Alike (a a' : Agent δ κ γ) : Prop := a.uncounted = a'.uncounted

lemma SameBooks.number {a a' : Agent δ κ γ} (h : SameBooks a a') : a'.number = a.number := by
  obtain ⟨gate, engine, rfl⟩ := h
  rfl

/-- No request gives the agent another number. -/
lemma number_perform (a : Agent δ κ γ) (t : ThreadId) (r : Request γ) :
    (a.perform t r).2.number = a.number := by
  cases r with
  | create | init settings | nullSound | createTransport kind settings =>
    exact (sameBooks_command _ t _ a).number
  | setDefault id | info id | call id target settings =>
    exact (sameBooks_accountCommand _ t id _ a).number
  | start =>
    have hbooks := (sameBooks_command "start" t Engine.start a).number
    simp only [perform, start]
    split <;>
    · rename_i hcommand
      rwa [hcommand] at hbooks
  | destroy =>
    simp only [perform, destroy]
    split <;> rfl
  | setConsumer consumer =>
    simp only [perform, setConsumer]
    split <;> rfl
  | createAccount settings makeDefault =>
    have hbooks :=
      (sameBooks_command "create account" t (Engine.addAccount settings makeDefault) a).number
    simp only [perform, createAccount]
    split
    · rfl
    · split <;>
      · rename_i hcommand
        rwa [hcommand] at hbooks
  | listCodecs worker wanted => exact (sameBooks_listCodecs worker wanted a).number
  | isValid id => exact (sameBooks_isValid t id a).number
  | isDefault id => exact (sameBooks_isDefault t id a).number
  | shutdown id =>
    simp only [perform, shutdown]
    split
    · rfl
    · split
      · rfl
      · split <;>
        · rename_i hissue
          have hnumber := congrArg (·.2.number) hissue
          exact hnumber.symm
  | account id | accounts | defaultAccount | engineState | endSession callee | registration id
  | regState id => rfl

/-- No request depends on how many stills were delivered. -/
lemma perform_uncounted (t : ThreadId) (r : Request γ) (a : Agent δ κ γ) :
    a.uncounted.perform t r = ((a.perform t r).1, (a.perform t r).2.uncounted) := by
  have hspared (hr : r.SparesPipeline) :
      a.uncounted.perform t r = ((a.perform t r).1, (a.perform t r).2.uncounted) := by
    unfold uncounted
    rw [pipeline_perform t a hr]
    exact perform_withPipeline a.pipeline.uncounted a t hr
  cases r with
  | start =>
    obtain ⟨gate, engine, hbooks⟩ := sameBooks_command "start" t Engine.start a
    simp only [perform, start, uncounted, command_withPipeline]
    rcases hcommand : a.command "start" t Engine.start with ⟨_ | _, b⟩ <;>
    · rw [hcommand] at hbooks
      obtain rfl : b = _ := hbooks
      rfl
  | setConsumer consumer =>
    obtain ⟨engine, gate, directory, ⟨registry, mode, ⟨old, active, delivered, discarded⟩,
      sessions, devices⟩, closing, gone, number⟩ := a
    cases active <;> cases old <;> rfl
  | endSession callee => rfl
  | destroy =>
    have hclosing : a.uncounted.closing = a.closing := rfl
    simp only [perform, destroy, hclosing]
    cases a.closing <;> rfl
  | _ => exact hspared trivial

/-- Reports are entered without regard to what was delivered. -/
lemma enter?_uncounted (a : Agent δ κ γ) (id : AccountId) (report : RegReport) :
    a.uncounted.enter? id report = (a.enter? id report).map uncounted := by
  have hdirectory : a.uncounted.directory = a.directory := rfl
  have hengine : a.uncounted.engine = a.engine := rfl
  simp only [enter?, adopt?, hdirectory, hengine]
  cases a.directory.contains id <;> cases a.engine.holds id <;> rfl

namespace Alike

variable {a a' : Agent δ κ γ} (h : Alike a a')

include h

lemma engine : a.engine = a'.engine := congrArg (·.engine) h

lemma closing : a.closing = a'.closing := congrArg (·.closing) h

lemma gone : a.gone = a'.gone := congrArg (·.gone) h

lemma consumer : a.pipeline.dispatch.consumer = a'.pipeline.dispatch.consumer :=
  congrArg (·.pipeline.dispatch.consumer) h

lemma perform (t : ThreadId) (r : Request γ) :
    (a.perform t r).1 = (a'.perform t r).1 ∧ Alike (a.perform t r).2 (a'.perform t r).2 := by
  have heq := congrArg (Agent.perform t · r) h
  simp only [perform_uncounted] at heq
  exact Prod.mk.inj heq

lemma number : a.number = a'.number := congrArg (·.number) h

lemma ensureThread (t : ThreadId) : Alike (a.ensureThread t) (a'.ensureThread t) :=
  congrArg (Agent.ensureThread t) h

lemma withEngine (engine : Engine) : Alike { a with engine } { a' with engine } := by
  have heq := congrArg (fun b : Agent δ κ γ => ({ b with engine } : Agent δ κ γ)) h
  exact heq

/-- What is decoded and encoded is the same. -/
lemma prepare (e : DecodeEvent) :
    (a.pipeline.prepare e).1 = (a'.pipeline.prepare e).1
      ∧ Alike { a with pipeline := (a.pipeline.prepare e).2 }
          { a' with pipeline := (a'.pipeline.prepare e).2 } := by
  have heq := congrArg (fun b : Agent δ κ γ => b.pipeline.prepare e) h
  simp only [uncounted, withPipeline, Pipeline.prepare_uncounted] at heq
  obtain ⟨hprepared, hpipeline⟩ := Prod.mk.inj heq
  have hrest := congrArg
    (fun b : Agent δ κ γ => b.withPipeline (a.pipeline.prepare e).2.uncounted) h
  refine ⟨hprepared, hrest.trans ?_⟩
  rw [hpipeline]
  rfl

/-- The same reports are accepted. -/
lemma enter? (id : AccountId) (report : RegReport) :
    (a.enter? id report = none ∧ a'.enter? id report = none)
      ∨ ∃ b b', a.enter? id report = some b ∧ a'.enter? id report = some b' ∧ Alike b b' := by
  have heq := congrArg (Agent.enter? id report) h
  rw [enter?_uncounted, enter?_uncounted] at heq
  cases hleft : a.enter? id report with
  | none =>
    rw [hleft] at heq
    exact .inl ⟨rfl, Option.map_eq_none_iff.1 heq.symm⟩
  | some b =>
    rw [hleft] at heq
    obtain ⟨b', hright, hb⟩ := Option.map_eq_some_iff.1 heq.symm
    exact .inr ⟨b, b', rfl, hright, hb.symm⟩

end Alike
end Agent

/-! ### Histories in which a consumer breaks off -/

/-- What happens in the second history is what happens in the first one, to an agent that is alike,
except that where a consumer breaks off the stills that are left are not dispatched. -/
inductive Interrupted : History δ κ γ → History δ κ γ → Prop where
  | nil : Interrupted [] []
  | cons {a a' : Agent δ κ γ} (x : Act γ) {acts acts' : History δ κ γ} (h : a.Alike a')
      (hacts : Interrupted acts acts') : Interrupted ((a, x) :: acts) ((a', x) :: acts')
  | brokenOff {a a' : Agent δ κ γ} (callee : String) (data : Bytes) {acts : History δ κ γ}
      (h : a.Alike a') (hconsumer : a.pipeline.dispatch.consumer.isSome = true)
      (hacts : ∀ y ∈ acts, ∃ still, y.2 = .dispatch callee still true) :
      Interrupted ((a, .dispatch callee data true) :: acts) [(a', .dispatch callee data false)]

namespace World

/-- The agents are alike and have the given number, and the given bodies are under way in both
worlds. -/
structure Abreast (number : Nat) (s : InFlight) (w : World δ κ γ σ) (w' : World δ κ γ τ) :
    Prop where
  agent : w.agent.Alike w'.agent
  number : w.agent.number = number
  left : w.inFlight = s
  right : w'.inFlight = s

section

variable {o : Observers γ σ} {o' : Observers γ τ} (raise₁ : Raise δ κ γ σ)
  (raise₂ : Raise δ κ γ τ) (raised₁ : RaiseHistory δ κ γ σ) (raised₂ : RaiseHistory δ κ γ τ)
  {number : Nat} {s : InFlight} {w : World δ κ γ σ} {w' : World δ κ γ τ}

/-- Where nobody breaks off, stills are dispatched one after the other, and nothing else happens. -/
lemma offerAll_of_calm (ho : o.Calm) (t : ThreadId) (callee : String) (data : List Bytes)
    {consumer : γ} (hconsumer : w.agent.pipeline.dispatch.consumer = some consumer) :
    (offerAll o raise₁ t callee data w).agent.Alike w.agent
      ∧ (offerAll o raise₁ t callee data w).inFlight = w.inFlight
      ∧ ∀ y ∈ offerHistory o raise₁ raised₁ t callee data w,
          ∃ still, y.2 = .dispatch callee still true := by
  induction data generalizing w with
  | nil => exact ⟨rfl, rfl, fun y hy => absurd hy (by simp [offerHistory])⟩
  | cons still rest ih =>
    have hcalm := ho.consume consumer callee still
    obtain ⟨notes, hreact⟩ := react_of_calm raise₁ hcalm t w
    have hacts := reactHistory_of_quiet raise₁ raised₁ hcalm.quiet t w
    obtain ⟨hagent, hflight, hrest⟩ :=
      ih (w := ({ w with notes }).mapDispatch Dispatch.countDelivered) hconsumer
    simp only [offerAll, offerHistory, hconsumer, hreact, hacts]
    refine ⟨hagent, hflight, fun y hy => ?_⟩
    rcases List.mem_cons.1 hy with rfl | hy
    · exact ⟨still, rfl⟩
    · exact hrest y hy

lemma interrupted_offerAll (ho : o.Calm) (ho' : o'.Quiet) (t : ThreadId) (callee : String)
    (data : List Bytes) (h : Abreast number s w w') :
    Abreast number s (offerAll o raise₁ t callee data w) (offerAll o' raise₂ t callee data w')
      ∧ Interrupted (offerHistory o raise₁ raised₁ t callee data w)
          (offerHistory o' raise₂ raised₂ t callee data w') := by
  induction data generalizing w w' with
  | nil => exact ⟨h, .nil⟩
  | cons still rest ih =>
    cases hconsumer : w.agent.pipeline.dispatch.consumer with
    | none =>
      have hconsumer' := h.agent.consumer.symm.trans hconsumer
      have hcounted : Abreast number s (w.mapDispatch Dispatch.countDiscarded)
          (w'.mapDispatch Dispatch.countDiscarded) :=
        ⟨congrArg (Agent.mapDispatch Dispatch.countDiscarded) h.agent, h.number, h.left, h.right⟩
      obtain ⟨habreast, hacts⟩ := ih hcounted
      simp only [offerAll, offerHistory, hconsumer, hconsumer']
      exact ⟨habreast, .cons _ h.agent hacts⟩
    | some consumer =>
      have hconsumer' := h.agent.consumer.symm.trans hconsumer
      have hcalm := ho.consume consumer callee still
      have hquiet := ho'.consume consumer callee still
      obtain ⟨notes, hreact⟩ := react_of_calm raise₁ hcalm t w
      obtain ⟨returns, notes', hreact'⟩ := react_of_quiet raise₂ hquiet t w'
      simp only [offerAll, offerHistory, hconsumer, hconsumer', hreact, hreact',
        reactHistory_of_quiet _ _ hcalm.quiet, reactHistory_of_quiet _ _ hquiet]
      cases returns with
      | true =>
        have hcounted : Abreast number s (({ w with notes }).mapDispatch Dispatch.countDelivered)
            (({ w' with notes := notes' }).mapDispatch Dispatch.countDelivered) :=
          ⟨h.agent, h.number, h.left, h.right⟩
        obtain ⟨habreast, hacts⟩ := ih hcounted
        exact ⟨habreast, .cons _ h.agent hacts⟩
      | false =>
        -- the stills that are left are dispatched in the first world only
        obtain ⟨hagent, hflight, hrest⟩ := offerAll_of_calm raise₁ raised₁
          (w := ({ w with notes }).mapDispatch Dispatch.countDelivered) ho t callee rest hconsumer
        exact ⟨⟨hagent.trans h.agent, hagent.number.trans h.number, hflight.trans h.left, h.right⟩,
          .brokenOff callee still h.agent (by rw [hconsumer]; rfl) hrest⟩

lemma interrupted_process (ho : o.Calm) (ho' : o'.Quiet) (t : ThreadId) (n : Notification)
    (h : Abreast number s w w') :
    Abreast number s (w.process o raise₁ t n) (w'.process o' raise₂ t n)
      ∧ Interrupted (w.processHistory o raise₁ raised₁ t n)
          (w'.processHistory o' raise₂ raised₂ t n) := by
  cases n with
  | report id report =>
    rcases h.agent.enter? id report with ⟨hnone, hnone'⟩ | ⟨b, b', hsome, hsome', hb⟩
    · simp only [process, processHistory, hnone, hnone']
      exact ⟨h, .nil⟩
    · have hcalm := ho.onReport id report
      have hquiet := ho'.onReport id report
      obtain ⟨notes, hreact⟩ := react_of_calm raise₁ hcalm t { w with agent := b }
      obtain ⟨returns, notes', hreact'⟩ :=
        react_of_quiet raise₂ hquiet t { w' with agent := b' }
      have hnumber : b.number = w.agent.number := by rw [Agent.eq_of_enter? hsome]
      simp only [process, processHistory, hsome, hsome', hreact, hreact',
        reactHistory_of_quiet _ _ hcalm.quiet, reactHistory_of_quiet _ _ hquiet]
      exact ⟨⟨hb, hnumber.trans h.number, h.left, h.right⟩, .cons _ h.agent .nil⟩
  | decode event =>
    obtain ⟨hprepared, hagent⟩ := h.agent.prepare event
    have habreast : Abreast number s
        { w with agent := { w.agent with pipeline := (w.agent.pipeline.prepare event).2 } }
        { w' with agent := { w'.agent with pipeline := (w'.agent.pipeline.prepare event).2 } } :=
      ⟨hagent, h.number, h.left, h.right⟩
    simp only [process, processHistory, ← hprepared]
    cases (w.agent.pipeline.prepare event).1 with
    | settled outcome => exact ⟨habreast, .cons _ h.agent .nil⟩
    | stills data =>
      obtain ⟨hend, hacts⟩ :=
        interrupted_offerAll raise₁ raise₂ raised₁ raised₂ ho ho' t event.callee data habreast
      exact ⟨hend, .cons _ h.agent hacts⟩

lemma Abreast.enter (h : Abreast number s w w') (t : ThreadId) :
    Abreast number (s.enter ⟨number, t⟩) (w.enter t) (w'.enter t) where
  agent := h.agent.ensureThread t
  number := h.number
  left := by simp only [World.enter, h.left, h.number]
  right := by simp only [World.enter, h.right, ← h.agent.number, h.number]

lemma Abreast.leave {t : ThreadId} (h : Abreast number (s.enter ⟨number, t⟩) w w') :
    Abreast number s (w.leave t) (w'.leave t) where
  agent := h.agent
  number := h.number
  left := by simp only [World.leave, h.left, h.number, InFlight.leave_enter]
  right := by simp only [World.leave, h.right, ← h.agent.number, h.number, InFlight.leave_enter]

lemma interrupted_deliver (ho : o.Calm) (ho' : o'.Quiet) (t : ThreadId) (n : Notification)
    (h : Abreast number s w w') :
    Abreast number s (w.deliver o raise₁ t n) (w'.deliver o' raise₂ t n)
      ∧ Interrupted (w.deliverHistory o raise₁ raised₁ t n)
          (w'.deliverHistory o' raise₂ raised₂ t n) := by
  have hentered := h.enter t
  obtain ⟨hprocessed, hacts⟩ :=
    interrupted_process raise₁ raise₂ raised₁ raised₂ ho ho' t n hentered
  have hgone := h.agent.gone
  have hclosing := h.agent.closing
  cases hg : w.agent.gone with
  | true =>
    simp only [deliver, deliverHistory, hg, ← hgone, if_true]
    exact ⟨h, .nil⟩
  | false =>
    cases hc : w.agent.closing with
    | true =>
      simp only [deliver, deliverHistory, hg, ← hgone, closing_enter, hc, ← hclosing, if_true,
        Bool.false_eq_true, if_false]
      exact ⟨hentered.leave, .cons _ h.agent .nil⟩
    | false =>
      simp only [deliver, deliverHistory, hg, ← hgone, closing_enter, hc, ← hclosing,
        Bool.false_eq_true, if_false]
      exact ⟨hprocessed.leave, .cons _ h.agent hacts⟩

end

section

variable {o : Observers γ σ} {o' : Observers γ τ} {number : Nat} {s : InFlight}
  {w : World δ κ γ σ} {w' : World δ κ γ τ}

/-- What the engine is made to raise is answered in the same way, and has the same consequences. -/
lemma interrupted_raise (ho : o.Calm) (ho' : o'.Quiet) (limit : Nat) (t : ThreadId)
    (stimulus : Stimulus) (h : Abreast number s w w') :
    (raise o limit t stimulus w).1 = (raise o' limit t stimulus w').1
      ∧ Abreast number s (raise o limit t stimulus w).2 (raise o' limit t stimulus w').2
      ∧ Interrupted (raiseHistory o limit t stimulus w) (raiseHistory o' limit t stimulus w') := by
  cases limit with
  | zero => exact ⟨rfl, h, .nil⟩
  | succ limit =>
    cases stimulus with
    | started id renew => exact ⟨rfl, interrupted_deliver _ _ _ _ ho ho' t _ h⟩
    | decode event => exact ⟨rfl, interrupted_deliver _ _ _ _ ho ho' t _ h⟩
    | answered id status expires =>
      have hengine := h.agent.engine
      cases hanswer : w.agent.engine.answer id status expires with
      | none =>
        simp only [raise, raiseHistory, ← hengine, hanswer]
        exact ⟨trivial, h, .nil⟩
      | some x =>
        simp only [raise, raiseHistory, ← hengine, hanswer]
        have hanswered : Abreast number s { w with agent := { w.agent with engine := x.2 } }
            { w' with agent := { w'.agent with engine := x.2 } } :=
          ⟨h.agent.withEngine x.2, h.number, h.left, h.right⟩
        obtain ⟨hend, hacts⟩ := interrupted_deliver (raise o limit t) (raise o' limit t)
          (raiseHistory o limit t) (raiseHistory o' limit t) ho ho' t (.report id (.info x.1))
          hanswered
        exact ⟨trivial, hend, .cons _ h.agent hacts⟩

lemma interrupted_step (ho : o.Calm) (ho' : o'.Quiet) (limit : Nat) (op : AgentOp γ)
    (h : Abreast number s w w') :
    Abreast number s (w.step o limit op) (w'.step o' limit op)
      ∧ Interrupted (w.stepHistory o limit op) (w'.stepHistory o' limit op) := by
  have hnotify (t : ThreadId) (n : Notification) :
      Abreast number s (w.notify o limit t n) (w'.notify o' limit t n)
        ∧ Interrupted (w.notifyHistory o limit t n) (w'.notifyHistory o' limit t n) :=
    interrupted_deliver _ _ _ _ ho ho' t n h
  cases op with
  | ask t request =>
    refine ⟨⟨(h.agent.perform t request).2, ?_, h.left, h.right⟩, .cons _ h.agent .nil⟩
    exact (w.agent.number_perform t request).trans h.number
  | notify t n => exact hnotify t n
  | raise t stimulus => exact (interrupted_raise ho ho' limit t stimulus h).2
  | foreign t known call =>
    unfold step stepHistory World.foreign
    dsimp only
    cases call.notification? with
    | none => exact ⟨h, .nil⟩
    | some n =>
      cases known with
      | false => exact ⟨h, .nil⟩
      | true => exact hnotify t n
  | engine change =>
    have hengine := h.agent.engine
    refine ⟨⟨?_, h.number, h.left, h.right⟩, .cons _ h.agent .nil⟩
    simp only [step, ← hengine]
    exact h.agent.withEngine (change w.agent.engine)
  | drop =>
    exact ⟨⟨congrArg Agent.drop h.agent, h.number, h.left, h.right⟩, .cons _ h.agent .nil⟩

lemma abreast_run (ho : o.Calm) (ho' : o'.Quiet) (limit : Nat) (ops : List (AgentOp γ))
    (h : Abreast number s w w') : Abreast number s (w.run o limit ops) (w'.run o' limit ops) := by
  induction ops generalizing w w' with
  | nil => exact h
  | cons op ops ih => exact ih (interrupted_step ho ho' limit op h).1

end

/-- Observers that break off leave no trace.  Whatever was done, and whichever calls they broke off
from, the agents are alike and no body is under way that was not before; whatever is done next, it
is answered in the same way, and the same happens, except that of an event from whose stills the
consumer breaks off the stills that are left are not dispatched.  The devices may be such as keep a
record of what each decode context is fed. -/
theorem interruptions_leave_no_trace {o : Observers γ σ} {o' : Observers γ τ} (ho : o.Calm)
    (ho' : o'.Quiet) (limit : Nat) (a : Agent δ κ γ) (flight : InFlight) (notes : σ) (notes' : τ)
    (ops : List (AgentOp γ)) :
    let w := run o limit { agent := a, inFlight := flight, notes } ops
    let w' := run o' limit { agent := a, inFlight := flight, notes := notes' } ops
    w.agent.Alike w'.agent ∧ w.inFlight = flight ∧ w'.inFlight = flight
    ∧ (∀ op, Interrupted (w.stepHistory o limit op) (w'.stepHistory o' limit op))
    ∧ (∀ t request, (w.perform t request).1 = (w'.perform t request).1)
    ∧ ∀ t stimulus, (raise o limit t stimulus w).1 = (raise o' limit t stimulus w').1 := by
  intro w w'
  have habreast : Abreast a.number flight w w' := abreast_run ho ho' limit ops ⟨rfl, rfl, rfl, rfl⟩
  exact ⟨habreast.agent, habreast.left, habreast.right,
    fun op => (interrupted_step ho ho' limit op habreast).2,
    fun t request => (habreast.agent.perform t request).1,
    fun t stimulus => (interrupted_raise ho ho' limit t stimulus habreast).1⟩

/-- The agent at its work, with devices that keep a record of what decode contexts are fed. -/
def atRecordedWork : Agent (Booked SyntheticDevices Bool) (Traced SyntheticDevices Bool) Unit where
  engine := atWork.agent.engine
  pipeline := atWork.agent.pipeline.recorded

/-- Observers that count as well, and break off whenever they are told that an attempt to register
has started and whenever a still that they were given brings their count to a multiple of three. -/
def startled : Observers Unit Nat where
  started := some fun _ _ => .note (· + 1) .abort
  consume := fun _ _ _ => .note (· + 1) (.look fun n => if n % 3 = 0 then .abort else .done)

theorem interruptions_leave_no_trace_startled :
    let ops := someWork ++ someWork
    let w := run counting 1 { agent := atRecordedWork, notes := 0 } ops
    let w' := run startled 1 { agent := atRecordedWork, notes := 0 } ops
    counting.Calm ∧ startled.Quiet
    ∧ (w.agent.pipeline.dispatch.delivered = 4 ∧ w.agent.pipeline.devices.2.length = 3)
    ∧ w'.agent.pipeline.dispatch.delivered = 2
    ∧ w.agent.Alike w'.agent ∧ w.inFlight = {} ∧ w'.inFlight = {}
    ∧ (∀ op, Interrupted (w.stepHistory counting 1 op) (w'.stepHistory startled 1 op))
    ∧ (∀ t request, (w.perform t request).1 = (w'.perform t request).1)
    ∧ ∀ t stimulus, (raise counting 1 t stimulus w).1 = (raise startled 1 t stimulus w').1 := by
  intro ops w w'
  have hcalm : counting.Calm :=
    ⟨fun id report => by cases report <;> trivial, fun consumer callee data => trivial⟩
  have hquiet : startled.Quiet := by
    refine ⟨fun id report => by cases report <;> trivial, fun consumer callee data notes => ?_⟩
    dsimp only
    split <;> trivial
  exact ⟨hcalm, hquiet, ⟨rfl, rfl⟩, rfl,
    interruptions_leave_no_trace hcalm hquiet 1 atRecordedWork {} 0 0 ops⟩

end World
end SipStills
