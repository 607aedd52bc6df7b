/-
# What a successful teardown says about the engine

The first teardown of an agent is the only one that reaches the engine, since once it has begun a
further one is answered with success at once.  So a teardown that succeeds has found the engine down
or brought it down (`Engine.Down`), unless the first one was rejected by the engine, or has not come
to its end yet since it waits for the bodies of notifications.  Then further ones are reported as
successes although the engine is still up.

An engine that is down stays down, since nothing but commands brings it up again
(`Engine.Down.run`), and after the teardown no command is let through by the agent.  One that was
let through before may reach the engine late, and bring it up again (`Agent.BroughtUp`).
-/
import SipStills.Proofs.Agent.Parts
import SipStills.Proofs.Agent.Reach

namespace SipStills

variable {δ κ γ σ : Type}

namespace Engine

/-- The engine is down: it is at its first stage and holds neither accounts nor transports. -/
structure Down (e : Engine) : Prop where
  state : e.state = .null
  accounts : e.accounts = []
  transports : e.transports = []

/-- What is no command leaves an engine down. -/
lemma Down.apply {e : Engine} (h : e.Down) {op : EngineOp} (hop : op.command? = none) :
    (e.apply op).2.Down := by
  cases op with
  | registerThread =>
    cases hregister : e.registerThread with
    | error status => simpa [Engine.apply, hregister] using h
    | ok e' =>
      simp only [Engine.apply, hregister, eq_of_registerThread hregister]
      exact ⟨h.state, h.accounts, h.transports⟩
  | answer id status expires =>
    cases hanswer : e.answer id status expires with
    | none => simpa [Engine.apply, hanswer] using h
    | some x =>
      simp only [Engine.apply, hanswer, eq_of_answer hanswer]
      exact ⟨h.state, by simp [h.accounts], h.transports⟩
  | invalidate id => exact ⟨h.state, by simp [Engine.apply, invalidate, without, h.accounts],
      h.transports⟩
  | fail request status | mend request | attempt id renew | answersItself on | takeUnanswered =>
    exact ⟨h.state, h.accounts, h.transports⟩
  | _ => exact absurd hop (by simp [EngineOp.command?])

lemma Down.run {e : Engine} (h : e.Down) {ops : List EngineOp}
    (hops : ∀ op ∈ ops, op.command? = none) : (e.run ops).2.Down := by
  induction ops generalizing e with
  | nil => exact h
  | cons op ops ih =>
    exact ih (h.apply (hops op (by simp))) fun op' hop' => hops op' (by simp [hop'])

/-- An engine that has carried out a teardown is down. -/
lemma down_destroy {e : Engine} (hsound : e.Sound) (h : e.destroy.1 = .ok ()) :
    e.destroy.2.Down := by
  rcases receive_cases .destroy _ e with ⟨status, hrefused⟩ | hdone
  · rw [destroy, hrefused] at h
    exact absurd h (by simp)
  · rw [destroy, hdone]
    split
    · rename_i hstate
      -- there was nothing to tear down
      obtain ⟨haccounts, htransports⟩ := not_or.1 (hsound.holds_nothing (.inl hstate))
      exact ⟨hstate, Classical.not_not.1 haccounts, Classical.not_not.1 htransports⟩
    · exact ⟨rfl, rfl, rfl⟩

end Engine

namespace Agent

/-- A teardown that succeeds when it comes to its end leaves the engine down. -/
lemma down_of_finishDestroy {a : Agent δ κ γ} (hsound : a.engine.Sound) {t : ThreadId}
    (h : (a.finishDestroy t).1 = .ok ()) : (a.finishDestroy t).2.engine.Down := by
  have hsound' : (a.ensureThread t).engine.Sound := by
    obtain ⟨before, -, hengine⟩ := reaches_ensureThread t a
    exact hengine ▸ hsound.run _
  refine Engine.down_destroy hsound' ?_
  rcases hanswer : (a.ensureThread t).engine.destroy.1 with status | _
  · have hrejected : (a.finishDestroy t).1 = .error (.engine "destroy" status) := by
      simp [finishDestroy, issue_of_refused hanswer]
    rw [hrejected] at h
    exact absurd h (by simp)
  · rfl

lemma destroy_of_open {a : Agent δ κ γ} (h : a.closing = false) (t : ThreadId) :
    a.destroy t = a.beginDestroy.finishDestroy t := by
  simp [destroy, h]

/-- The teardown begins when it is asked for, and does not end. -/
lemma Does.closing_iff {allowed : Changes} {a a' : Agent δ κ γ} {x : Act γ}
    (h : Does allowed a x a') :
    a'.closing = true ↔ a.closing = true ∨ ∃ t, x = .perform t .destroy := by
  cases h with
  | performed t r a =>
    by_cases hr : r = .destroy
    · subst hr
      exact ⟨fun _ => .inr ⟨t, rfl⟩, fun _ => closing_destroy t a⟩
    · have hne : ¬ ∃ t', Act.perform t r = .perform t' .destroy := by
        rintro ⟨t', heq⟩
        exact hr (Act.perform.inj heq).2
      rw [(keepsBooks_perform t a hr).closing]
      exact ⟨.inl, fun h => h.resolve_right hne⟩
  | entered henter =>
    rw [closing_enter? henter]
    simp
  | registered t a | prepared e a | changed hchange a | dropped a =>
    exact ⟨.inl, fun h => h.resolve_right (by simp)⟩

/-- Where all commands go through the agent, an engine that is down once the teardown has begun
stays down. -/
lemma Does.down {a a' : Agent δ κ γ} {x : Act γ}
    (h : Does (.byOps fun op => op.command? = none) a x a') (hclosing : a.closing = true)
    (hdown : a.engine.Down) : a'.engine.Down := by
  obtain ⟨ops, hops, hsilent⟩ := h.engine
  exact hops ▸ hdown.run fun op hop => (hsilent hclosing op hop).elim id id

/-- The teardown has begun and the engine is down, whatever has gone before. -/
def DownForGood (_ : History δ κ γ) (a : Agent δ κ γ) : Prop :=
  a.closing = true ∧ a.engine.Down

lemma kept_downForGood :
    Kept (.byOps fun op => op.command? = none) (DownForGood (δ := δ) (κ := κ) (γ := γ)) where
  act h hdoes := ⟨hdoes.closing_iff.2 (.inl h.1), hdoes.down h.1 h.2⟩
  dispatched _ _ _ h := h
  counted _ h := h

/-! ### Teardowns that have gone before -/

/-- A teardown begins. -/
def Begins (x : Agent δ κ γ × Deed γ) : Prop :=
  ∃ t, x.2 = .act (.perform t .destroy) ∨ x.2 = .destroyBegins t

/-- A teardown ends here, and the engine has rejected it. -/
def Rejected (x : Agent δ κ γ × Deed γ) : Prop :=
  ∃ t fault,
    (x.2 = .act (.perform t .destroy) ∧ (x.1.destroy t).1 = .error fault)
      ∨ (x.2 = .destroyEnds t ∧ (x.1.finishDestroy t).1 = .error fault)

/-- A teardown has begun and has not come to its end. -/
def Waits (deeds : Deeds δ κ γ) : Prop :=
  ∃ before a t after, deeds = before ++ (a, .destroyBegins t) :: after
    ∧ ∀ y ∈ after, ∀ t', y.2 ≠ .destroyEnds t'

/-- A command that was let through earlier brings the engine up, which a teardown has left down. -/
def BroughtUp (x : Agent δ κ γ × Deed γ) : Prop :=
  x.1.closing = true ∧ x.1.engine.Down
    ∧ ∃ op, x.2 = .commandReaches op ∧ ¬ (x.1.engine.apply op).2.Down

/-- What has gone before keeps a further teardown from meaning that the engine is down. -/
inductive Unsettled (deeds : Deeds δ κ γ) : Prop where
  /-- The engine has rejected a teardown. -/
  | rejected {x : Agent δ κ γ × Deed γ} (hmem : x ∈ deeds) (h : Rejected x)
  /-- A teardown has not come to its end. -/
  | waits (h : Waits deeds)
  /-- The engine was down and is up again. -/
  | broughtUp {x : Agent δ κ γ × Deed γ} (hmem : x ∈ deeds) (h : BroughtUp x)

lemma Waits.append {deeds : Deeds δ κ γ} (h : Waits deeds) {x : Agent δ κ γ × Deed γ}
    (hx : ∀ t, x.2 ≠ .destroyEnds t) : Waits (deeds ++ [x]) := by
  obtain ⟨before, a, t, after, rfl, hafter⟩ := h
  refine ⟨before, a, t, after ++ [x], by simp, fun y hy => ?_⟩
  rcases List.mem_append.1 hy with hold | hnew
  · exact hafter y hold
  · obtain rfl := List.mem_singleton.1 hnew
    exact hx

lemma Unsettled.append {deeds : Deeds δ κ γ} (h : Unsettled deeds) {x : Agent δ κ γ × Deed γ}
    (hx : ∀ t, x.2 ≠ .destroyEnds t) : Unsettled (deeds ++ [x]) := by
  cases h with
  | rejected hmem h => exact .rejected (List.mem_append_left _ hmem) h
  | waits h => exact .waits (h.append hx)
  | broughtUp hmem h => exact .broughtUp (List.mem_append_left _ hmem) h

/-- What is so at any time: the engine is sound, the teardown has begun if it was asked for, and
then the engine is down, unless something has gone before that keeps it up. -/
structure DownOrUnsettled (before : Deeds δ κ γ) (a : Agent δ κ γ) : Prop where
  sound : a.engine.Sound
  begun : a.closing = true ↔ ∃ x ∈ before, Begins x
  down : a.closing = true → a.engine.Down ∨ Unsettled before

namespace DownOrUnsettled

variable {before : Deeds δ κ γ} {a a' : Agent δ κ γ}

lemma act {x : Act γ} (h : DownOrUnsettled before a)
    (hdoes : Does (.byOps fun op => op.command? = none) a x a') :
    DownOrUnsettled (before ++ [(a, .act x)]) a' := by
  obtain ⟨ops, hops, -⟩ := hdoes.engine
  refine ⟨hops ▸ h.sound.run ops, ?_, fun hclosing' => ?_⟩
  · rw [hdoes.closing_iff, h.begun]
    simp [Begins, or_and_right, exists_or]
  · cases hclosing : a.closing with
    | true =>
      -- nothing has reached the engine that could bring it up
      exact (h.down hclosing).imp (hdoes.down hclosing) (·.append nofun)
    | false =>
      obtain ⟨t, rfl⟩ := (hdoes.closing_iff.1 hclosing').resolve_left (by simp [hclosing])
      cases hdoes with
      | performed =>
        rcases hanswer : (a.destroy t).1 with fault | _
        · exact .inr (.rejected (x := (a, .act (.perform t .destroy))) (by simp)
            ⟨t, fault, .inl ⟨rfl, hanswer⟩⟩)
        · rw [destroy_of_open hclosing] at hanswer
          simp only [perform, destroy_of_open hclosing]
          exact .inl (down_of_finishDestroy h.sound hanswer)

lemma dispatched (h : DownOrUnsettled before a) (callee : String) (data : Bytes)
    (returns : Bool) :
    DownOrUnsettled (before ++ [(a, .act (.dispatch callee data returns))]) a := by
  refine ⟨h.sound, ?_, fun hclosing => (h.down hclosing).imp_right (·.append nofun)⟩
  rw [h.begun]
  simp [Begins, or_and_right, exists_or]

lemma destroyBegins (h : DownOrUnsettled before a) (t : ThreadId) :
    DownOrUnsettled (before ++ [(a, .destroyBegins t)]) a.beginDestroy := by
  have hlast : ∃ x ∈ before ++ [(a, .destroyBegins t)], Begins x :=
    ⟨(a, .destroyBegins t), by simp, t, .inr rfl⟩
  have hwaits : Waits (before ++ [(a, .destroyBegins t)]) := ⟨before, a, t, [], rfl, by simp⟩
  exact ⟨h.sound, ⟨fun _ => hlast, fun _ => rfl⟩, fun _ => .inr (.waits hwaits)⟩

lemma destroyEnds (h : DownOrUnsettled before a) (t : ThreadId) :
    DownOrUnsettled (before ++ [(a, .destroyEnds t)]) (a.finishDestroy t).2 := by
  have hsound : (a.finishDestroy t).2.engine.Sound := by
    obtain ⟨ops, -, hops⟩ := reaches_issue .destroy (fun _ => rfl) t a
    have hengine : (a.finishDestroy t).2.engine = _ := hops
    exact hengine ▸ h.sound.run _
  refine ⟨hsound, ?_, fun _ => ?_⟩
  · have hkept : (a.finishDestroy t).2.closing = a.closing := rfl
    rw [hkept, h.begun]
    simp [Begins, or_and_right, exists_or]
  · rcases hanswer : (a.finishDestroy t).1 with fault | _
    · exact .inr (.rejected (x := (a, .destroyEnds t)) (by simp) ⟨t, fault, .inr ⟨rfl, hanswer⟩⟩)
    · exact .inl (down_of_finishDestroy h.sound hanswer)

lemma commandReaches (h : DownOrUnsettled before a) (op : EngineOp) :
    DownOrUnsettled (before ++ [(a, .commandReaches op)])
      { a with engine := (a.engine.apply op).2 } := by
  refine ⟨h.sound.run [op], ?_, fun hclosing => ?_⟩
  · rw [h.begun]
    simp [Begins, or_and_right, exists_or]
  · rcases h.down hclosing with hdown | hunsettled
    · by_cases hstill : (a.engine.apply op).2.Down
      · exact .inl hstill
      · exact .inr (.broughtUp (x := (a, .commandReaches op)) (by simp)
          ⟨hclosing, hdown, op, rfl, hstill⟩)
    · exact .inr (hunsettled.append nofun)

end DownOrUnsettled

lemma keptByDeeds_downOrUnsettled :
    KeptByDeeds (.byOps fun op => op.command? = none)
      (DownOrUnsettled (δ := δ) (κ := κ) (γ := γ)) where
  act h hdoes := h.act hdoes
  dispatched callee data returns h := h.dispatched callee data returns
  counted _ h := ⟨h.sound, h.begun, h.down⟩
  destroyBegins t h _ := h.destroyBegins t
  destroyEnds t h := h.destroyEnds t
  commandReaches op h := h.commandReaches op
  accountEntered _ h := ⟨h.sound, h.begun, h.down⟩

end Agent

namespace World

open Agent (DownOrUnsettled)

variable {w : World δ κ γ σ}

lemma answering_silent : Changes.Answering (.byOps fun op => op.command? = none) :=
  fun id status expires => ⟨.answer id status expires, rfl, rfl⟩

/-- A body that goes on once the teardown has begun does not bring the engine up again. -/
lemma down_process (o : Observers γ σ) (limit : Nat) (t : ThreadId) (n : Notification)
    (hclosing : w.agent.closing = true) (hdown : w.agent.engine.Down) :
    (w.process o (raise o limit t) t n).agent.engine.Down := by
  have hstart : Agent.DownForGood [] w.agent := ⟨hclosing, hdown⟩
  have hcourse := course_process answering_silent o limit t n w
  obtain ⟨-, -, hstill⟩ := hcourse.along Agent.kept_downForGood hstart
  exact hstill

/-- A teardown during the body of a decode event leaves the engine down if it succeeds, whether it
waits for the body or is let through; but where it finds another one under way it does nothing. -/
lemma down_of_destroyDuring (o : Observers γ σ) (limit : Nat) (a b : ThreadId)
    (event : DecodeEvent) {before : Deeds δ κ γ} (h : DownOrUnsettled before w.agent)
    (hok : (w.destroyDuring o limit a b event).2.1 = .ok ()) :
    (w.destroyDuring o limit a b event).2.2.agent.engine.Down
      ∨ w.agent.closing = true ∧ Agent.Unsettled before := by
  have hentered := h.act (.registered a w.agent)
  have hmark : (w.enter a).agent.closing = w.agent.closing := rfl
  cases hclosing : w.agent.closing with
  | true =>
    rw [hclosing] at hmark
    simp only [destroyDuring, hmark, if_true]
    refine (h.down hclosing).imp (fun hdown => ?_) (⟨trivial, ·⟩)
    exact (Agent.Does.registered a w.agent).down hclosing hdown
  | false =>
    rw [hclosing] at hmark
    simp only [destroyDuring, hmark, Bool.false_eq_true, if_false] at hok ⊢
    left
    have hbegun : DownOrUnsettled _ (w.enter a).agent.beginDestroy := hentered.destroyBegins b
    split at hok
    · rename_i hthrough
      rw [if_pos hthrough]
      have hdown := Agent.down_of_finishDestroy hbegun.sound hok
      exact down_process o limit a (.decode event) rfl hdown
    · rename_i hwaits
      rw [if_neg hwaits]
      -- the body goes on in between, and the engine is still sound after it
      have hbody := (Agent.keptByDeeds_downOrUnsettled.along_course
        (course_process answering_silent o limit a (.decode event)
          { w.enter a with agent := (w.enter a).agent.beginDestroy }) hbegun).2
      exact Agent.down_of_finishDestroy hbody.sound hok

/-- The engine is brought up at the second attempt and takes a transport and an account.  Then it is
torn down: the teardown waits for a body, and two further ones are asked for, before it comes to its
end and after that. -/
def upAndDown : List (OpPart Unit) :=
  [.whole (.ask 1 .create), .whole (.engine fun e => (e.apply (.fail (.command .init) 70001)).2),
    .whole (.ask 1 (.init {})), .whole (.engine fun e => (e.apply (.mend (.command .init))).2),
    .whole (.ask 1 (.init {})), .whole (.ask 1 (.createTransport .udp none)),
    .whole (.ask 1 (.createAccount { idUri := "sip:a@b" } true)), .bodyBegins 5, .destroyBegins 1,
    .whole (.ask 2 .destroy), .bodyGoesOn 5 (.report 0 (.started true)), .bodyEnds 5,
    .destroyEnds 1, .whole (.ask 2 .destroy)]

end World
end SipStills
