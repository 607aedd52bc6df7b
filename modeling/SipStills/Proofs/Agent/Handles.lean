/-
# Handles of accounts

Whoever knows the number of an account holds a handle of it, and may try it at any time.  What is
asked through a handle is looked at anew each time: it reaches the engine if and only if the agent
is in service and its engine holds the account, and in the case of a shutdown only if the directory
knows the account as well (`checks_perform`).

An account that was deleted is lost to the engine for ever (`Engine.Lost`), so nothing is asked of
the engine through its handles any more, and it is not deleted again (`World.handles_are_checked`).
-/
import SipStills.Proofs.Agent.Reach
import SipStills.Proofs.Agent.Refusals

namespace SipStills

variable {δ κ γ σ : Type}

/-- The account whose handle a request is made through, and the command that it is to become. -/
def Request.handle? : Request γ → Option (AccountId × EngineCommand)
  | .setDefault id => some (id, .accountSetDefault)
  | .info id => some (id, .accountInfo)
  | .call id _ _ => some (id, .makePlay)
  | .shutdown id => some (id, .accountDelete)
  | _ => none

/-- In the stages that an engine is in between two operations, an account is lost if and only if
the engine does not hold it. -/
lemma Agent.hasLost_of_sound {a : Agent δ κ γ} (h : a.engine.Sound) (id : AccountId) :
    a.hasLost id = !a.engine.holds id := by
  have hstage : EngineState.closing.rank ≤ a.engine.state.rank ↔ False := by
    rcases h.stage with hstate | hstate | hstate | hstate <;> simp [hstate, EngineState.rank]
  simp [hasLost, hstage]

namespace Agent

/-- A command may be issued through the handle of an account. -/
structure Admits (a : Agent δ κ γ) (id : AccountId) (c : EngineCommand) : Prop where
  there : a.gone = false
  opened : a.closing = false
  held : a.engine.holds id = true
  known : c = .accountDelete → a.directory.contains id = true

/-- How a request through a handle is answered that may not be issued: with the reason, or as if a
shutdown had been done. -/
def declines (a : Agent δ κ γ) (id : AccountId) : EngineCommand → Option Fault
  | .accountDelete => none
  | _ => if a.gone || a.closing then some .closing else some (.invalidAccount id)

/-- A request through a handle becomes one command of the engine if it may, and otherwise nothing
is asked of the engine. -/
structure Checks (a : Agent δ κ γ) (t : ThreadId) (r : Request γ) (id : AccountId)
    (c : EngineCommand) : Prop where
  reaches : (a.perform t r).2.engine.log = a.engine.log ++ [c] ↔ a.Admits id c
  declined : ¬ a.Admits id c →
    (a.perform t r).2.engine.log = a.engine.log
      ∧ r.refusal? (a.perform t r).1 = a.declines id c

variable {a : Agent δ κ γ} {id : AccountId} {c : EngineCommand} {r : Request γ}

lemma passes_iff_admits (hsound : a.engine.Sound) (h : r.handle? = some (id, c)) :
    a.passes r = true ↔ a.Admits id c := by
  have hadmits : a.Admits id c ↔ (a.serves && a.engine.holds id) = true
      ∧ (c = .accountDelete → a.directory.contains id = true) := by
    simp only [serves, Bool.and_eq_true, Bool.not_eq_true']
    exact ⟨fun h => ⟨⟨⟨h.there, h.opened⟩, h.held⟩, h.known⟩,
      fun h => ⟨h.1.1.1, h.1.1.2, h.1.2, h.2⟩⟩
  rw [hadmits]
  cases r with
  | setDefault | info | call =>
    obtain ⟨rfl, rfl⟩ := Prod.mk.inj (Option.some.inj h)
    simp [passes]
  | shutdown =>
    obtain ⟨rfl, rfl⟩ := Prod.mk.inj (Option.some.inj h)
    simp only [passes, hasLost_of_sound hsound, Bool.not_not, Bool.and_eq_true, forall_const]
    exact and_right_comm
  | _ => exact absurd h (by simp [Request.handle?])

lemma command?_of_handle? (h : r.handle? = some (id, c)) :
    r.op?.bind EngineOp.command? = some c := by
  cases r with
  | setDefault | info | call | shutdown =>
    obtain ⟨rfl, rfl⟩ := Prod.mk.inj (Option.some.inj h)
    rfl
  | _ => exact absurd h (by simp [Request.handle?])

/-- A command that may not be issued through a handle is refused. -/
lemma refusal_accountCommand {α : Type} {operation : String} {t : ThreadId}
    {run : Engine → Except EngineStatus α × Engine}
    (h : (a.serves && a.engine.holds id) = false) :
    (a.accountCommand operation t id run).1
      = .error (if a.gone || a.closing then .closing else .invalidAccount id) := by
  unfold accountCommand
  simp only [holds_ensureThread]
  unfold serves at h ⊢
  cases hgone : a.gone <;> cases hclosing : a.closing <;> simp [hgone, hclosing] at h ⊢
  simp [h]

/-- A shutdown that may not be issued is answered as if it had been done. -/
lemma refusal_shutdown {t : ThreadId}
    (h : (a.serves && a.directory.contains id && !a.hasLost id) = false) :
    (a.shutdown t id).1 = .ok () := by
  have houtcome := shutdown_outcome t id a
  generalize a.shutdown t id = r at houtcome ⊢
  cases houtcome with
  | skipped hskip | forgotten hknown hlost | deleted hknown hheld => rfl
  | refused hknown hheld hfailing => exact absurd h (by simp [hknown, hheld])

lemma refusal_of_not_passes (t : ThreadId) (h : r.handle? = some (id, c))
    (hpasses : a.passes r = false) : r.refusal? (a.perform t r).1 = a.declines id c := by
  cases r with
  | setDefault id' | info id' =>
    obtain ⟨rfl, rfl⟩ := Prod.mk.inj (Option.some.inj h)
    simp only [Request.refusal?, perform, setDefault, info, refusal_accountCommand hpasses,
      declines]
    split <;> rfl
  | call id' target settings =>
    obtain ⟨rfl, rfl⟩ := Prod.mk.inj (Option.some.inj h)
    simp only [Request.refusal?, perform, call, refusal_accountCommand hpasses, declines]
    split <;> rfl
  | shutdown id' =>
    obtain ⟨rfl, rfl⟩ := Prod.mk.inj (Option.some.inj h)
    simp only [Request.refusal?, perform, refusal_shutdown hpasses]
    rfl
  | _ => exact absurd h (by simp [Request.handle?])

/-- Requests through handles are checked, whatever was done before. -/
lemma checks_perform (hsound : a.engine.Sound) (t : ThreadId) (h : r.handle? = some (id, c)) :
    a.Checks t r id c := by
  have hlog := log_perform t a r
  have hpasses := passes_iff_admits hsound h
  cases hp : a.passes r with
  | true =>
    have hadmits : a.Admits id c := hpasses.1 hp
    rw [hp, if_pos rfl, command?_of_handle? h] at hlog
    exact ⟨⟨fun _ => hadmits, fun _ => hlog⟩, fun hnot => absurd hadmits hnot⟩
  | false =>
    have hnot : ¬ a.Admits id c := fun hadmits => by simp [hpasses.2 hadmits] at hp
    have hsame : (a.perform t r).2.engine.log = a.engine.log := by simpa [hp] using hlog
    refine ⟨⟨fun hreaches => ?_, fun hadmits => absurd hadmits hnot⟩,
      fun _ => ⟨hsame, refusal_of_not_passes t h hp⟩⟩
    rw [hsame] at hreaches
    exact absurd hreaches (by simp)

/-! ### Deleted accounts -/

/-- The engine after an act. -/
def engineAfter : Agent δ κ γ × Act γ → Engine
  | (a, .perform t r) => (a.perform t r).2.engine
  | (a, .register t) => (a.ensureThread t).engine
  | (a, .engine change) => change a.engine
  | (a, .enter _ _) | (a, .prepare _) | (a, .dispatch _ _ _) | (a, .drop) => a.engine

lemma Does.engineAfter {allowed : Changes} {a' : Agent δ κ γ} {x : Act γ}
    (h : Does allowed a x a') : a'.engine = engineAfter (a, x) := by
  cases h with
  | entered henter => rw [eq_of_enter? henter]; rfl
  | performed t r a | registered t a | prepared e a | changed hchange a | dropped a => rfl

/-- The act is a command to delete an account, and the engine carries it out. -/
structure Deletes (id : AccountId) (x : Agent δ κ γ × Act γ) : Prop where
  held : x.1.engine.holds id = true
  commanded : (engineAfter x).log = x.1.engine.log ++ [.accountDelete]
  gone : (engineAfter x).holds id = false

/-- A shutdown that is issued and succeeds deletes the account. -/
lemma deletes_of_shutdown (hsound : a.engine.Sound) (hadmits : a.Admits id .accountDelete)
    {t : ThreadId} (hok : (a.shutdown t id).1 = .ok ()) :
    Deletes id (a, .perform t (.shutdown id)) := by
  have hheld : a.hasLost id = false := by simp [hasLost_of_sound hsound, hadmits.held]
  have hknown : (a.serves && a.directory.contains id) = true := by
    simp [serves, hadmits.there, hadmits.opened, hadmits.known rfl]
  have hdeleted : (a.shutdown t id).2.engine.log = a.engine.log ++ [.accountDelete]
      ∧ (a.shutdown t id).2.engine.holds id = false := by
    have houtcome := shutdown_outcome t id a
    generalize a.shutdown t id = r at houtcome hok ⊢
    cases houtcome with
    | skipped hskip =>
      rw [hknown] at hskip
      exact absurd hskip (by simp)
    | forgotten hknown hlost =>
      rw [hheld] at hlost
      exact absurd hlost (by simp)
    | deleted hknown hheld =>
      exact ⟨by simp [Engine.without, Engine.note], Engine.holds_without id _⟩
    | refused hknown hheld hfailing => exact absurd hok (by simp)
  exact ⟨hadmits.held, hdeleted.1, hdeleted.2⟩

/-- The engine is sound, and has lost the accounts that were deleted. -/
structure Deleted (before : History δ κ γ) (a : Agent δ κ γ) : Prop where
  sound : a.engine.Sound
  lost : ∀ x ∈ before, ∀ id, Deletes id x → Engine.Lost id a.engine

/-- Every act leaves the accounts lost that were deleted, and those that it deletes itself. -/
lemma kept_deleted {kind : EngineOp → Prop} :
    Kept (.byOps kind) (Deleted (δ := δ) (κ := κ) (γ := γ)) where
  act := by
    intro before a a' x h hdoes
    obtain ⟨ops, hops, -⟩ := hdoes.engine
    refine ⟨hops ▸ h.sound.run ops, fun y hy id hdeletes => ?_⟩
    rcases List.mem_append.1 hy with hy | hy
    · exact hops ▸ (h.lost y hy id hdeletes).run ops
    · obtain rfl := List.mem_singleton.1 hy
      refine ⟨hops ▸ (h.sound.issued hdeletes.held).run ops, ?_⟩
      rw [hdoes.engineAfter]
      exact hdeletes.gone
  dispatched := by
    intro before a callee data returns h
    refine ⟨h.sound, fun y hy id hdeletes => ?_⟩
    rcases List.mem_append.1 hy with hy | hy
    · exact h.lost y hy id hdeletes
    · -- a dispatch is no command
      obtain rfl := List.mem_singleton.1 hy
      have hheld : a.engine.holds id = true := hdeletes.held
      have hgone : a.engine.holds id = false := hdeletes.gone
      rw [hheld] at hgone
      exact absurd hgone (by simp)
  counted := fun f h => ⟨h.sound, h.lost⟩

end Agent

namespace World

/-- Handles of accounts reach the engine while they are valid, and not otherwise.  At any time a
request through a handle becomes one command if the agent is in service and the engine holds the
account, for a shutdown if the directory knows it as well, and otherwise nothing is asked of the
engine.  So an account is deleted at most once, with a shutdown or past the agent, and after that no
command about it is issued through a handle, whatever else happens on either side. -/
theorem handles_are_checked (o : Observers γ σ) (limit : Nat) {w : World δ κ γ σ}
    (hengine : ∃ codecs ops, w.agent.engine = (Engine.run ops { codecs }).2)
    {ops : List (AgentOp γ)} (hops : ∀ op ∈ ops, op.Within (.byOps fun _ => True)) :
    let acts := w.history o limit ops
    (∀ a t r id c, (a, .perform t r) ∈ acts → r.handle? = some (id, c) → a.Checks t r id c)
    ∧ (∀ a t id, (a, .perform t (.shutdown id)) ∈ acts → a.Admits id .accountDelete →
        (a.shutdown t id).1 = .ok () → Agent.Deletes id (a, .perform t (.shutdown id)))
    ∧ ∀ before x after id, acts = before ++ x :: after → (∃ y ∈ before, Agent.Deletes id y) →
        ¬ Agent.Deletes id x
        ∧ ∀ t r c, x.2 = .perform t r → r.handle? = some (id, c) →
            (x.1.perform t r).2.engine.log = x.1.engine.log := by
  intro acts
  have hcourse := course_run (fun id status expires => ⟨_, trivial, rfl⟩) o limit w hops
  have hstart : Agent.Deleted [] w.agent :=
    ⟨Engine.sound_of_run hengine, fun y hy => absurd hy (by simp)⟩
  have halong := (hcourse.along Agent.kept_deleted hstart).1
  have hat {before : History δ κ γ} {x : Agent δ κ γ × Act γ} {after : History δ κ γ}
      (hsplit : acts = before ++ x :: after) : Agent.Deleted before x.1 := by
    have halong' : Agent.Along Agent.Deleted [] (before ++ x :: after) := hsplit ▸ halong
    simpa using halong'.at_split
  refine ⟨fun a t r id c hmem hr => ?_, fun a t id hmem hadmits hok => ?_,
    fun before x after id hsplit hdeleted => ?_⟩
  · obtain ⟨before, after, hsplit⟩ := List.append_of_mem hmem
    exact Agent.checks_perform (hat hsplit).sound t hr
  · obtain ⟨before, after, hsplit⟩ := List.append_of_mem hmem
    exact Agent.deletes_of_shutdown (hat hsplit).sound hadmits hok
  · obtain ⟨y, hy, hdeletes⟩ := hdeleted
    have hlost := (hat hsplit).lost y hy id hdeletes
    refine ⟨fun hagain => hlost.not_holds hagain.held, fun t r c hx hr => ?_⟩
    have hchecks := Agent.checks_perform (hat hsplit).sound t hr
    exact (hchecks.declined fun hadmits => hlost.not_holds hadmits.held).1

/-- Two accounts are created.  The first one is shut down twice through its handles, the second one
is dropped by the engine, and both handles are tried afterwards. -/
def staleHandles : List (AgentOp Unit) :=
  let settings : AccountSettings := { idUri := "sip:a@example.com" }
  [.ask 1 .create, .ask 1 (.init {}), .ask 1 (.createAccount settings true),
    .ask 1 (.createAccount settings false), .ask 1 (.info 0), .ask 1 (.shutdown 0),
    .ask 2 (.shutdown 0), .ask 2 (.info 0), .engine fun e => (e.apply (.invalidate 1)).2,
    .ask 2 (.setDefault 1), .ask 2 (.shutdown 1)]

theorem handles_are_checked_stale :
    let acts := bare.history {} 1 staleHandles
    (∃ codecs ops, bare.agent.engine = (Engine.run ops { codecs }).2)
    ∧ (∀ op ∈ staleHandles, op.Within (.byOps fun _ => True))
    ∧ (bare.run {} 1 staleHandles).agent.engine.log
      = [.create, .init, .accountAdd, .accountAdd, .accountInfo, .accountDelete]
    ∧ (∀ a t r id c, (a, .perform t r) ∈ acts → r.handle? = some (id, c) → a.Checks t r id c)
    ∧ ∀ before x after id, acts = before ++ x :: after → (∃ y ∈ before, Agent.Deletes id y) →
        ¬ Agent.Deletes id x := by
  have hengine : ∃ codecs ops, bare.agent.engine = (Engine.run ops { codecs }).2 :=
    ⟨defaultCodecs, [], rfl⟩
  have hops : ∀ op ∈ staleHandles, op.Within (.byOps fun _ => True) := by
    simp only [staleHandles, List.forall_mem_cons]
    exact ⟨trivial, trivial, trivial, trivial, trivial, trivial, trivial, trivial,
      ⟨.invalidate 1, trivial, rfl⟩, trivial, trivial, fun op hop => absurd hop (by simp)⟩
  obtain ⟨hchecks, -, honce⟩ := handles_are_checked {} 1 hengine hops
  exact ⟨hengine, hops, rfl, hchecks, fun before x after id hsplit hdeleted =>
    (honce before x after id hsplit hdeleted).1⟩

end World
end SipStills
