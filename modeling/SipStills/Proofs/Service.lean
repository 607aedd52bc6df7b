/-
# The service calls its targets once

The service calls its targets when it is first told that the registration of an account is active,
from that account, each target once and in their order.  Before that it calls nobody, and afterwards
it never calls again, whatever else happens (`Service.Stretch`, `World.stretches_run`).

A call that the engine records is one that was made while the account could call, to a SIP address
(`Agent.recorded`).  Calls do not change whether the account can call, so the calls that are
recorded are those of all targets that are SIP addresses, or none (`Service.recorded_attempts`).

The other observers of the agent may do what they like, except that they call nobody and leave the
service's note alone (`Reaction.Abstains`).
-/
import SipStills.Proofs.Agent.Reach
import SipStills.Run

namespace SipStills

variable {δ κ γ σ : Type}

/-! ### Calls -/

/-- The request is a call. -/
def Request.isCall : Request γ → Bool
  | .call _ _ _ => true
  | _ => false

namespace Act

/-- The act is a call. -/
def isCall : Act γ → Bool
  | .perform _ r => r.isCall
  | _ => false

/-- The act is to enter a report that the registration of an account is active. -/
def activates : Act γ → Bool
  | .enter _ (.info i) => i.isActive
  | _ => false

end Act

namespace Agent

/-- Calls can be made from the account: the agent is in service, and its engine runs, holds the
account and is not told to fail. -/
def canCall (a : Agent δ κ γ) (id : AccountId) : Bool :=
  a.serves && a.engine.holds id && decide (a.engine.state = .running)
    && (a.engine.failure? (.command .makePlay)).isNone

/-- What the engine records of an act: a call to a SIP address from an account that can call. -/
def recorded : Agent δ κ γ × Act γ → List Play
  | (a, .perform _ (.call id target settings)) =>
    if a.canCall id && isSipUri target then [⟨id, target, settings⟩] else []
  | _ => []

end Agent

namespace Service

/-- The attempts to call targets from an account, one after the other, each with the agent as it was
just before. -/
def attempts (t : ThreadId) (id : AccountId) : List String → Agent δ κ γ → History δ κ γ
  | [], _ => []
  | target :: rest, a =>
    (a, .perform t (.call id target .play))
      :: attempts t id rest (a.perform t (.call id target .play)).2

/-- What the service does while a stretch of history passes.  The flags say whether it has called
its targets, at the beginning and at the end. -/
inductive Stretch (targets : List String) : Bool → History δ κ γ → Bool → Prop where
  /-- No registration becomes active, and nobody is called. -/
  | waiting {acts : History δ κ γ}
      (h : ∀ x ∈ acts, x.2.activates = false ∧ x.2.isCall = false) :
      Stretch targets false acts false
  /-- A registration becomes active for the first time.  The targets are called right then, from
  the account that it is about, and nobody is called otherwise. -/
  | playing {before after : History δ κ γ} {a b : Agent δ κ γ} {id : AccountId}
      {i : AccountInfo} (t : ThreadId)
      (hbefore : ∀ x ∈ before, x.2.activates = false ∧ x.2.isCall = false)
      (hactive : i.isActive = true) (henter : a.enter? id (.info i) = some b)
      (hafter : ∀ x ∈ after, x.2.isCall = false) :
      Stretch targets false (before ++ (a, .enter id (.info i)) :: attempts t id targets b ++ after)
        true
  /-- The targets have been called, and nobody is called any more. -/
  | played {acts : History δ κ γ} (h : ∀ x ∈ acts, x.2.isCall = false) :
      Stretch targets true acts true

namespace Stretch

variable {targets : List String} {p p' p'' : Bool} {acts acts' : History δ κ γ}

/-- Where no registration becomes active and nobody is called, the service does nothing. -/
lemma idle (h : ∀ x ∈ acts, x.2.activates = false ∧ x.2.isCall = false) :
    Stretch targets p acts p := by
  cases p with
  | false => exact .waiting h
  | true => exact .played fun x hx => (h x hx).2

lemma nil : Stretch targets p ([] : History δ κ γ) p := idle fun x hx => absurd hx (by simp)

lemma single {a : Agent δ κ γ} {x : Act γ} (hactive : x.activates = false)
    (hcall : x.isCall = false) : Stretch targets p [(a, x)] p := by
  refine idle fun y hy => ?_
  obtain rfl := List.mem_singleton.1 hy
  exact ⟨hactive, hcall⟩

lemma append (h : Stretch targets p acts p') (h' : Stretch targets p' acts' p'') :
    Stretch targets p (acts ++ acts') p'' := by
  cases h with
  | waiting h =>
    cases h' with
    | waiting h' =>
      exact .waiting fun x hx => (List.mem_append.1 hx).elim (h x) (h' x)
    | playing t hbefore hactive henter hafter =>
      have hwaited := fun x hx => (List.mem_append.1 hx).elim (h x) (hbefore x)
      simpa using Stretch.playing t hwaited hactive henter hafter
  | playing t hbefore hactive henter hafter =>
    cases h' with
    | played h' =>
      have hplayed := fun x hx => (List.mem_append.1 hx).elim (hafter x) (h' x)
      simpa using Stretch.playing t hbefore hactive henter hplayed
  | played h =>
    cases h' with
    | played h' => exact .played fun x hx => (List.mem_append.1 hx).elim (h x) (h' x)

lemma cons {a : Agent δ κ γ} {x : Act γ} (hactive : x.activates = false)
    (hcall : x.isCall = false) (h : Stretch targets p acts p') :
    Stretch targets p ((a, x) :: acts) p' :=
  (single hactive hcall).append h

end Stretch
end Service

/-! ### Observers -/

/-- The reaction calls nobody, and leaves alone what `hasPlayed` reads. -/
def Reaction.Abstains (hasPlayed : σ → Bool) : Reaction γ σ → Prop
  | .done => True
  | .abort => True
  | .note change next => (∀ notes, hasPlayed (change notes) = hasPlayed notes)
      ∧ next.Abstains hasPlayed
  | .look next => ∀ notes, (next notes).Abstains hasPlayed
  | .ask request next => request.isCall = false ∧ ∀ answer, (next answer).Abstains hasPlayed
  | .raise _ next => ∀ known, (next known).Abstains hasPlayed

/-- The service is told of the answers of registrars, and the other observers abstain from its
affairs. -/
structure Service.Installed (targets : List String) (hasPlayed : σ → Bool) (o : Observers γ σ) :
    Prop where
  answered : ∃ markPlayed : σ → σ, (∀ notes, hasPlayed (markPlayed notes) = true)
    ∧ o.answered = some (Service.onAnswer targets hasPlayed markPlayed)
  started : ∀ id renew, (o.onReport id (.started renew)).Abstains hasPlayed
  consume : ∀ consumer callee data, (o.consume consumer callee data).Abstains hasPlayed

/-- Nobody but the service calls: the operation is no call, neither through the agent nor past
it. -/
def AgentOp.CallsNobody : AgentOp γ → Prop
  | .ask _ request => request.isCall = false
  | .engine change => Changes.byOps (fun op => op.command? ≠ some .makePlay) change
  | _ => True

namespace World

open Service (Stretch)

variable {targets : List String} {hasPlayed : σ → Bool} {o : Observers γ σ}
  {raise' : Raise δ κ γ σ} {raised : RaiseHistory δ κ γ σ}

/-- The service does what it should while the one world becomes the other. -/
def Stretches (targets : List String) (hasPlayed : σ → Bool) (w : World δ κ γ σ)
    (acts : History δ κ γ) (w' : World δ κ γ σ) : Prop :=
  Stretch targets (hasPlayed w.notes) acts (hasPlayed w'.notes)

lemma stretches_react (h : Raises (Stretches targets hasPlayed) raise' raised) (t : ThreadId)
    {r : Reaction γ σ} (hr : r.Abstains hasPlayed) (w : World δ κ γ σ) :
    Stretches targets hasPlayed w (reactHistory raise' raised t r w) (react raise' t r w).2 := by
  induction r generalizing w with
  | done | abort => exact .nil
  | note change next ih =>
    have hnext := ih hr.2 { w with notes := change w.notes }
    simp only [Stretches, hr.1] at hnext
    exact hnext
  | look next ih => exact ih w.notes (hr w.notes) w
  | ask request next ih =>
    have hnext := ih _ (hr.2 (w.agent.perform t request).1)
      { w with agent := (w.agent.perform t request).2 }
    exact .cons rfl hr.1 hnext
  | raise stimulus next ih =>
    exact (h stimulus w).append (ih _ (hr (raise' stimulus w).1) (raise' stimulus w).2)

/-- The service carries out its attempts one after the other, whatever comes of each of them, and
takes no further notes. -/
lemma react_playAll (raise' : Raise δ κ γ σ) (raised : RaiseHistory δ κ γ σ)
    (targets : List String) (t : ThreadId) (id : AccountId) (w : World δ κ γ σ) :
    reactHistory raise' raised t (Service.playAll id targets) w
        = Service.attempts t id targets w.agent
      ∧ (react raise' t (Service.playAll id targets) w).2.notes = w.notes := by
  induction targets generalizing w with
  | nil => exact ⟨rfl, rfl⟩
  | cons target rest ih =>
    obtain ⟨hacts, hnotes⟩ :=
      ih { w with agent := (w.agent.perform t (.call id target .play)).2 }
    exact ⟨congrArg (_ :: ·) hacts, hnotes⟩

/-- What the service does when it is told of an answer: it calls its targets if the registration is
active and it has not done so before. -/
lemma stretches_answered {markPlayed : σ → σ} (hmark : ∀ notes, hasPlayed (markPlayed notes) = true)
    (t : ThreadId) {id : AccountId} {i : AccountInfo} {w : World δ κ γ σ} {agent : Agent δ κ γ}
    (henter : w.agent.enter? id (.info i) = some agent) :
    let r := Service.onAnswer targets hasPlayed markPlayed id i
    Stretches targets hasPlayed w
      ((w.agent, .enter id (.info i)) :: reactHistory raise' raised t r { w with agent })
      (react raise' t r { w with agent }).2 := by
  intro r
  cases hactive : i.isActive with
  | false =>
    have hr : r = .done := by simp [r, Service.onAnswer, hactive]
    rw [hr]
    exact .single hactive rfl
  | true =>
    have hr : r = .look fun notes =>
        if hasPlayed notes then .done else .note markPlayed (Service.playAll id targets) := by
      simp [r, Service.onAnswer, hactive]
    rw [hr]
    simp only [Stretches, reactHistory, react]
    cases hplayed : hasPlayed w.notes with
    | true =>
      simp only [if_true, reactHistory, react, hplayed]
      exact .played fun x hx => by rw [List.mem_singleton.1 hx]; rfl
    | false =>
      obtain ⟨hacts, hnotes⟩ := react_playAll raise' raised targets t id
        { w with agent, notes := markPlayed w.notes }
      simp only [Bool.false_eq_true, if_false, reactHistory, react, hacts, hnotes, hmark]
      have hplaying : Stretch targets false
          ([] ++ (w.agent, .enter id (.info i)) :: Service.attempts t id targets agent ++ [])
          true :=
        .playing t (by simp) hactive henter (by simp)
      simpa using hplaying

lemma follows_stretches (ho : Service.Installed targets hasPlayed o) :
    Follows (δ := δ) (κ := κ) o (Stretches targets hasPlayed) where
  nil w := .nil
  append h h' := .append h h'
  entered t w := .single rfl rfl
  left t w := .nil
  reported := by
    intro raise raised h t w id report agent henter
    cases report with
    | started renew =>
      exact .cons rfl rfl (stretches_react h t (ho.started id renew) { w with agent })
    | info i =>
      obtain ⟨markPlayed, hmark, hanswered⟩ := ho.answered
      simp only [Observers.onReport, hanswered]
      exact stretches_answered hmark t henter
  prepared event w := .single rfl rfl
  discarded callee data _ hconsumer := .single rfl rfl
  offered := by
    intro raise raised h t callee data w consumer hconsumer reaction r
    have hreact : Stretches targets hasPlayed w (reactHistory raise raised t reaction w) r.2 :=
      stretches_react h t (ho.consume consumer callee data) w
    cases hr : r.1 with
    | false => exact .cons rfl rfl hreact
    | true => exact .cons rfl rfl hreact
  answered hanswer := .single rfl rfl

lemma stretches_run (ho : Service.Installed targets hasPlayed o) (limit : Nat)
    (w : World δ κ γ σ) {ops : List (AgentOp γ)} (hops : ∀ op ∈ ops, op.CallsNobody) :
    Stretches targets hasPlayed w (w.history o limit ops) (w.run o limit ops) := by
  refine (follows_stretches ho).run limit w fun op hop w x hx => ?_
  have hnobody := hops op hop
  cases op with
  | ask t request =>
    obtain rfl := Option.some.inj hx
    exact .single rfl hnobody
  | engine change | drop =>
    obtain rfl := Option.some.inj hx
    exact .single rfl rfl
  | notify t n | raise t stimulus | foreign t known call => exact absurd hx (by simp [AgentOp.act?])

end World

/-! ### What the engine records -/

namespace Engine

variable {e e' : Engine}

lemma Move.plays {issue? : Option Issue} (h : Move e issue? e') :
    e'.plays = e.plays ++ ((issue?.bind Issue.call?).map (·.1)).toList := by
  cases h with
  | called settings hrunning hholds htarget => rfl
  | _ => exact (List.append_nil _).symm

/-- No command but a call gives out a call. -/
lemma call?_apply {op : EngineOp} (h : op.command? ≠ some .makePlay) :
    (e.apply op).1.bind Issue.call? = none := by
  have hgiving {α : Type} {issue? : α → Option Issue} (r : Except EngineStatus α × Engine)
      (hissue : ∀ x, (issue? x).bind Issue.call? = none) :
      (giving issue? r).1.bind Issue.call? = none := by
    obtain ⟨_ | x, e'⟩ := r
    · rfl
    · exact hissue x
  cases op with
  | create | init | start | destroy | nullSound | setDefault | deleteAccount | info | listCodecs
  | createTransport | addAccount => exact hgiving _ fun x => rfl
  | makePlay => exact absurd rfl h
  | registerThread => cases hregister : e.registerThread <;> simp [apply, hregister]
  | answer id status expires =>
    cases hanswer : e.answer id status expires <;> simp [apply, hanswer]
  | fail | mend | attempt | invalidate | answersItself | takeUnanswered => rfl

lemma plays_apply {op : EngineOp} (h : op.command? ≠ some .makePlay) :
    (e.apply op).2.plays = e.plays := by
  obtain ⟨log, hmove⟩ := move_apply e op
  have hplays := hmove.plays
  rw [call?_apply h] at hplays
  simpa using hplays

lemma plays_run {ops : List EngineOp} (h : ∀ op ∈ ops, op.command? ≠ some .makePlay) :
    (e.run ops).2.plays = e.plays := by
  induction ops generalizing e with
  | nil => rfl
  | cons op ops ih =>
    have hrest := ih (e := (e.apply op).2) fun op' hop' => h op' (by simp [hop'])
    exact hrest.trans (plays_apply (h op (by simp)))

/-- A call changes nothing but what is recorded and numbered. -/
lemma eq_makePlay (id : AccountId) (target : String) (settings : CallSettings) (e : Engine) :
    ∃ log nextCall plays, (makePlay id target settings e).2 = { e with log, nextCall, plays } := by
  rcases receive_cases .makePlay _ e with ⟨status, hrefused⟩ | hdone
  · exact ⟨e.log ++ [.makePlay], e.nextCall, e.plays, by rw [makePlay, hrefused]; rfl⟩
  · rw [makePlay, hdone]
    unfold atStage holding
    -- whichever check refuses the call, the engine has done no more than record it
    split
    · split
      · dsimp only
        split <;> exact ⟨_, _, _, rfl⟩
      · exact ⟨_, e.nextCall, e.plays, rfl⟩
    · exact ⟨_, e.nextCall, e.plays, rfl⟩

/-- A call is recorded if the engine runs, holds the account and is not told to fail, and if the
target is a SIP address. -/
lemma plays_makePlay (id : AccountId) (target : String) (settings : CallSettings) (e : Engine) :
    (makePlay id target settings e).2.plays
      = e.plays ++
        if e.holds id && decide (e.state = .running)
            && (e.failure? (.command .makePlay)).isNone && isSipUri target then
          [⟨id, target, settings⟩]
        else [] := by
  unfold makePlay
  cases hfailure : e.failure? (.command .makePlay) with
  | some status => simp [receive_of_failing hfailure]
  | none =>
    rw [receive_of_not_failing hfailure]
    unfold atStage holding
    by_cases hstate : e.state = .running <;> cases hholds : e.holds id <;>
      cases htarget : isSipUri target <;> simp [hstate, hholds]

end Engine

namespace Agent

variable {a : Agent δ κ γ}

lemma recorded_of_not_call {x : Agent δ κ γ × Act γ} (h : x.2.isCall = false) :
    recorded x = [] := by
  obtain ⟨a, y⟩ := x
  cases y with
  | perform t r =>
    cases r with
    | call id target settings => exact absurd h (by simp [Act.isCall, Request.isCall])
    | _ => rfl
  | _ => rfl

lemma command?_of_not_call {r : Request γ} (h : r.isCall = false) {op : EngineOp}
    (hop : r.op? = some op) : op.command? ≠ some .makePlay := by
  cases r with
  | call id target settings => exact absurd h (by simp [Request.isCall])
  | setConsumer | account | accounts | defaultAccount | engineState | endSession | isValid
  | isDefault | registration | regState => exact absurd hop (by simp [Request.op?])
  | _ =>
    obtain rfl := Option.some.inj hop
    simp [EngineOp.command?]

lemma plays_call (t : ThreadId) (id : AccountId) (target : String) (settings : CallSettings)
    (a : Agent δ κ γ) :
    (a.call t id target settings).2.engine.plays
      = a.engine.plays ++ recorded (a, .perform t (.call id target settings)) := by
  simp only [call, accountCommand, recorded, canCall]
  by_cases hserves : a.serves = true
  · by_cases hholds : a.engine.holds id = true
    · have hplays := Engine.plays_makePlay id target settings (a.ensureThread t).engine
      simpa [hserves, hholds, issue] using hplays
    · simp [hserves, hholds]
  · simp [hserves]

/-- A request adds to the calls of the engine what is recorded of it. -/
lemma plays_perform (t : ThreadId) (r : Request γ) (a : Agent δ κ γ) :
    (a.perform t r).2.engine.plays = a.engine.plays ++ recorded (a, .perform t r) := by
  cases hcall : r.isCall with
  | true =>
    cases r with
    | call id target settings => exact plays_call t id target settings a
    | _ => exact absurd hcall (by simp [Request.isCall])
  | false =>
    obtain ⟨before, hbefore, hengine⟩ := reaches_perform t a r
    rw [recorded_of_not_call (x := (a, .perform t r)) hcall, List.append_nil, hengine]
    refine Engine.plays_run fun op hop => ?_
    rcases List.mem_append.1 hop with hop | hop
    · rw [hbefore op hop]
      simp [EngineOp.command?]
    · split at hop
      · exact command?_of_not_call hcall (Option.mem_toList.1 hop)
      · exact absurd hop (by simp)

/-- Where all calls go through the agent, the calls of the engine are those that are recorded of the
acts, in order. -/
lemma kept_plays (plays : List Play) :
    Kept (.byOps fun op => op.command? ≠ some .makePlay)
      (fun (before : History δ κ γ) a => a.engine.plays = plays ++ before.flatMap recorded) where
  act := by
    intro before a a' x h hdoes
    have hrecorded : a'.engine.plays = a.engine.plays ++ recorded (a, x) := by
      cases hdoes with
      | performed t r a => exact plays_perform t r a
      | registered t a => simp [recorded]
      | entered henter =>
        rw [eq_of_enter? henter]
        exact (List.append_nil _).symm
      | changed hchange a =>
        obtain ⟨op, hop, rfl⟩ := hchange
        simp [Engine.plays_apply hop, recorded]
      | prepared e a | dropped a => exact (List.append_nil _).symm
    rw [hrecorded, h, List.flatMap_append, List.flatMap_singleton, List.append_assoc]
  dispatched := by
    intro before a callee data returns h
    rw [h, List.flatMap_append, List.flatMap_singleton]
    simp [recorded]
  counted := fun f h => h

/-- A call does not change whether an account can call. -/
lemma canCall_call (t : ThreadId) (id : AccountId) (target : String) (settings : CallSettings)
    (a : Agent δ κ γ) (j : AccountId) :
    (a.call t id target settings).2.canCall j = a.canCall j := by
  have hbooks := sameBooks_accountCommand "make play" t id (Engine.makePlay id target settings) a
  have hserves : (a.call t id target settings).2.serves = a.serves := by
    simp only [serves, call, hbooks.gone, hbooks.closing]
  have hengine : ∃ log threads nextCall plays, (a.call t id target settings).2.engine
      = { a.engine with log, threads, nextCall, plays } := by
    obtain ⟨threads, hensured⟩ := a.engine_ensureThread t
    simp only [call, accountCommand]
    split
    · split
      · obtain ⟨log, nextCall, plays, hcalled⟩ :=
          Engine.eq_makePlay id target settings (a.ensureThread t).engine
        exact ⟨log, threads, nextCall, plays, hcalled.trans (by rw [hensured])⟩
      · exact ⟨_, threads, _, _, hensured⟩
    · exact ⟨_, _, _, _, rfl⟩
  obtain ⟨log, threads, nextCall, plays, hengine⟩ := hengine
  simp only [canCall, hserves, hengine]
  rfl

end Agent

/-- Of attempts to call targets, all those to SIP addresses are recorded, or none. -/
lemma Service.recorded_attempts (t : ThreadId) (id : AccountId) (targets : List String)
    (a : Agent δ κ γ) :
    (Service.attempts t id targets a).flatMap Agent.recorded
      = if a.canCall id then
          (targets.filter isSipUri).map fun target => ⟨id, target, .play⟩
        else [] := by
  induction targets generalizing a with
  | nil => simp [attempts]
  | cons target rest ih =>
    have hrest := ih (a.perform t (.call id target .play)).2
    have hsame : (a.perform t (.call id target .play)).2.canCall id = a.canCall id :=
      Agent.canCall_call t id target .play a id
    rw [hsame] at hrest
    simp only [attempts, List.flatMap_cons, hrest, Agent.recorded]
    cases a.canCall id <;> cases htarget : isSipUri target <;> simp [htarget]

lemma AgentOp.CallsNobody.within {op : AgentOp γ} (h : op.CallsNobody) :
    op.Within (.byOps fun op => op.command? ≠ some .makePlay) := by
  cases op with
  | engine change => exact h
  | _ => trivial

/-- The observers of a run of the program are the service and a folder for the stills. -/
lemma Run.installed_observers (targets : List String) :
    Service.Installed targets Notes.played (observers targets) where
  answered := ⟨_, fun _ => rfl, rfl⟩
  started _ _ := trivial
  consume _ _ _ := ⟨fun _ => rfl, trivial⟩

namespace World

/-- The service calls its targets once.  As long as no registration was reported active, nobody is
called.  When the first such report is delivered, the service tries to call each target, in order,
from the account that the report is about, whatever comes of the attempts; then nobody is called any
more.  What the engine records are the calls to all targets that are SIP addresses, if the agent is
in service and its engine runs, holds the account and is not told to fail, and otherwise nothing. -/
theorem service_calls_targets_once {targets : List String} {hasPlayed : σ → Bool}
    {o : Observers γ σ} (ho : Service.Installed targets hasPlayed o) (limit : Nat)
    {w : World δ κ γ σ} (hfresh : hasPlayed w.notes = false) {ops : List (AgentOp γ)}
    (hops : ∀ op ∈ ops, op.CallsNobody) :
    let acts := w.history o limit ops
    let plays := (w.run o limit ops).agent.engine.plays
    ((∀ x ∈ acts, x.2.activates = false ∧ x.2.isCall = false) ∧ plays = w.agent.engine.plays)
    ∨ ∃ before a b id i t after,
        acts = before ++ (a, .enter id (.info i)) :: Service.attempts t id targets b ++ after
        ∧ (∀ x ∈ before, x.2.activates = false ∧ x.2.isCall = false)
        ∧ i.isActive = true ∧ a.enter? id (.info i) = some b
        ∧ (∀ x ∈ after, x.2.isCall = false)
        ∧ plays = w.agent.engine.plays ++
            if b.canCall id then (targets.filter isSipUri).map fun target => ⟨id, target, .play⟩
            else [] := by
  intro acts plays
  have hcourse : Agent.Course (.byOps fun op => op.command? ≠ some .makePlay) w.agent acts
      (w.run o limit ops).agent := course_run
    (fun id status expires => ⟨.answer id status expires, by simp [EngineOp.command?], rfl⟩)
    o limit w fun op hop => (hops op hop).within
  have hstart : w.agent.engine.plays
      = w.agent.engine.plays ++ ([] : History δ κ γ).flatMap Agent.recorded := by simp
  have hplays : plays = w.agent.engine.plays ++ acts.flatMap Agent.recorded :=
    (hcourse.along (Agent.kept_plays w.agent.engine.plays) hstart).2
  have hsilent {stretch : History δ κ γ} (h : ∀ x ∈ stretch, x.2.isCall = false) :
      stretch.flatMap Agent.recorded = [] :=
    List.flatMap_eq_nil_iff.2 fun x hx => Agent.recorded_of_not_call (h x hx)
  have hstretch : Service.Stretch targets (hasPlayed w.notes) (w.history o limit ops) _ :=
    stretches_run ho limit w hops
  rw [hfresh] at hstretch
  generalize hacts : w.history o limit ops = stretch at hstretch
  generalize hasPlayed (w.run o limit ops).notes = played at hstretch
  cases hstretch with
  | waiting h =>
    left
    refine ⟨by simpa [acts, hacts] using h, ?_⟩
    rw [hplays, show acts = stretch from hacts, hsilent fun x hx => (h x hx).2, List.append_nil]
  | playing t hbefore hactive henter hafter =>
    right
    refine ⟨_, _, _, _, _, t, _, hacts, hbefore, hactive, henter, hafter, ?_⟩
    rw [hplays, show acts = _ from hacts, List.flatMap_append, List.flatMap_append,
      hsilent fun x hx => (hbefore x hx).2, hsilent hafter, List.flatMap_cons,
      Service.recorded_attempts]
    simp [Agent.recorded]

/-- Two accounts are created.  The registration of the first one is refused, and then that of the
second one is accepted, and renewed, and then that of the first one is accepted.  The second account
is shut down, and a registration is renewed once more. -/
def twoRegistrations : List (AgentOp Unit) :=
  let settings : AccountSettings :=
    { idUri := "sip:a@example.com", registrarUri := "sip:example.com" }
  [.ask 0 .create, .ask 0 (.init {}), .ask 0 .start, .ask 0 (.createAccount settings true),
    .ask 0 (.createAccount settings false), .raise 2 (.answered 0 ⟨403⟩ 0),
    .raise 2 (.answered 1 .ok 3600), .raise 2 (.answered 1 .ok 3600),
    .raise 2 (.answered 0 .ok 3600), .ask 0 (.shutdown 1), .raise 2 (.answered 0 .ok 3600)]

theorem service_calls_targets_once_renewed :
    let targets := ["sip:x@example.com", "nobody", "sip:z@example.com"]
    let w : World Unit Unit Unit Run.Notes := { agent := bare.agent, notes := {} }
    let acts := w.history (Run.observers targets) 1 twoRegistrations
    let plays := (w.run (Run.observers targets) 1 twoRegistrations).agent.engine.plays
    Service.Installed targets Run.Notes.played (Run.observers targets) ∧ w.notes.played = false
    ∧ (∀ op ∈ twoRegistrations, op.CallsNobody)
    ∧ (acts.filter (·.2.isCall)).length = 3
    ∧ plays = [⟨1, "sip:x@example.com", .play⟩, ⟨1, "sip:z@example.com", .play⟩]
    ∧ (((∀ x ∈ acts, x.2.activates = false ∧ x.2.isCall = false) ∧ plays = w.agent.engine.plays)
      ∨ ∃ before a b id i t after,
          acts = before ++ (a, .enter id (.info i)) :: Service.attempts t id targets b ++ after
          ∧ (∀ x ∈ before, x.2.activates = false ∧ x.2.isCall = false)
          ∧ i.isActive = true ∧ a.enter? id (.info i) = some b
          ∧ (∀ x ∈ after, x.2.isCall = false)
          ∧ plays = w.agent.engine.plays ++
              if b.canCall id then (targets.filter isSipUri).map fun target => ⟨id, target, .play⟩
              else []) := by
  intro targets w acts plays
  have hobservers := Run.installed_observers targets
  have hops : ∀ op ∈ twoRegistrations, op.CallsNobody := by
    simp only [twoRegistrations, List.forall_mem_cons]
    exact ⟨rfl, rfl, rfl, rfl, rfl, trivial, trivial, trivial, trivial, rfl, trivial,
      fun op hop => absurd hop (by simp)⟩
  have honce := service_calls_targets_once (w := w) hobservers 1 rfl hops
  exact ⟨hobservers, rfl, hops, by decide +kernel, by decide +kernel, honce⟩

end World
end SipStills
