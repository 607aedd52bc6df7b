/-
# What a shutdown leaves behind

A shutdown trusts the directory: of an account that is not in it nothing is asked of the engine, and
the shutdown is answered with success.  That is right since a handle of an account is handed out
only while the account is in the directory, and since it leaves the directory, short of a teardown,
only when the engine has lost it (`Agent.Tracks`).  A number that the engine has given out is not
given out again, so what is lost stays lost.

* `Agent.kept_handlesTracked`: every account of which a handle was handed out is tracked, as long
  as the teardown has not begun.
* `Agent.shutsDown`: a shutdown of an account that is tracked removes it or changes nothing about
  it, and spares all other accounts.
* `World.shutdown_removes_account`: so it is at any time in any run.
-/
import SipStills.Proofs.Agent.Down
import SipStills.Proofs.Agent.Handles
import SipStills.Proofs.Agent.Records

namespace SipStills

variable {δ κ γ σ : Type}

/-! ### Which accounts are in a directory -/

namespace Directory

variable {d : Directory} {id j : AccountId}

lemma contains_insert : (d.insert j).contains id = true ↔ id = j ∨ d.contains id = true := by
  unfold contains
  rw [get?_insert]
  by_cases hj : id = j <;> simp [hj]

lemma contains_modify {f : AccountRecord → AccountRecord} :
    (d.modify j f).contains id = d.contains id := by
  unfold contains
  rw [get?_modify]
  by_cases hj : id = j <;> simp [hj]

lemma contains_remove : (d.remove j).contains id = true ↔ id ≠ j ∧ d.contains id = true := by
  unfold contains
  rw [get?_remove]
  by_cases hj : id = j <;> simp [hj]

lemma mem_ids_iff : id ∈ d.ids ↔ d.contains id = true := by
  simp [ids, contains, get?]

lemma remove_remove (d : Directory) (id : AccountId) : (d.remove id).remove id = d.remove id := by
  simp [remove, List.filter_filter]

lemma ids_remove (d : Directory) (id : AccountId) :
    (d.remove id).ids = d.ids.filter (· != id) := by
  simp only [ids, remove, List.filter_map]
  rfl

end Directory

/-! ### Handles -/

/-- A request that is answered so hands out a handle of the account. -/
def Request.HandsOut (id : AccountId) : (r : Request γ) → r.Answer → Prop
  | .createAccount _ _, .ok j => j = id
  | .account _, answer | .defaultAccount, answer => answer = some id
  | .accounts, ids => id ∈ ids
  | _, _ => False

namespace Agent

/-- The act hands out a handle of the account: a request does so with its answer, and a report about
the account is passed on together with one. -/
def HandsOut (id : AccountId) : Agent δ κ γ × Act γ → Prop
  | (a, .perform t r) => r.HandsOut id (a.perform t r).1
  | (_, .enter j _) => j = id
  | _ => False

/-- The account is in the directory, or the engine has lost it. -/
def Tracks (a : Agent δ κ γ) (id : AccountId) : Prop :=
  a.directory.contains id = true ∨ Engine.Lost id a.engine

/-- All accounts in the directory have numbers that the engine has given out. -/
def KnowsIssued (a : Agent δ κ γ) : Prop :=
  ∀ id, a.directory.contains id = true → a.engine.Issued id

variable {a a' : Agent δ κ γ} {id : AccountId} {t : ThreadId}

/-- Handles of an account are handed out while the account is in the directory. -/
lemma contains_of_account? (known : Option AccountId) (h : known.bind a.account? = some id) :
    a.directory.contains id = true := by
  obtain ⟨j, -, hj⟩ := Option.bind_eq_some_iff.1 h
  unfold account? at hj
  split at hj
  · rename_i hcontains
    obtain rfl := Option.some.inj hj
    exact hcontains
  · exact absurd hj (by simp)

lemma contains_of_handsOut {r : Request γ} (h : r.HandsOut id (a.perform t r).1) :
    (a.perform t r).2.directory.contains id = true := by
  cases r with
  | createAccount settings makeDefault =>
    have hbooks := (keepsBooks_createAccount t settings makeDefault a).directory
    simp only [perform] at h ⊢
    rw [hbooks]
    rcases hanswer : (a.createAccount t settings makeDefault).1 with fault | j
    · rw [hanswer] at h
      exact h.elim
    · rw [hanswer] at h
      exact Directory.contains_insert.2 (.inl h.symm)
  | account j => exact contains_of_account? (some j) h
  | accounts => exact Directory.mem_ids_iff.1 h
  | defaultAccount => exact contains_of_account? (a := a.ensureThread t) _ h
  | _ => exact h.elim

/-- The number of an account that was just created is one that the engine has given out. -/
lemma issued_createAccount {settings : AccountSettings} {makeDefault : Bool}
    (h : (a.createAccount t settings makeDefault).1 = .ok id) :
    (a.createAccount t settings makeDefault).2.engine.Issued id := by
  unfold createAccount at h ⊢
  split at h
  · exact absurd h (by simp)
  · rename_i hfew
    rw [if_neg hfew]
    unfold command at h ⊢
    cases hclosing : a.closing with
    | true => simp [hclosing] at h
    | false =>
      obtain ⟨log, hmove⟩ :=
        Engine.move_apply (a.ensureThread t).engine (.addAccount settings makeDefault)
      simp only [hclosing, issue, Engine.apply, Engine.giving, Bool.false_eq_true, if_false]
        at h hmove ⊢
      rcases hadded : Engine.addAccount settings makeDefault (a.ensureThread t).engine with
        ⟨status | j, e⟩
      · rw [hadded] at h
        exact absurd h (by simp [Except.mapError])
      · rw [hadded] at h hmove
        obtain rfl : j = id := Except.ok.inj h
        exact hmove.issued

/-- Whatever is asked, the directory knows only numbers that the engine has given out. -/
lemma KnowsIssued.perform (h : a.KnowsIssued) (t : ThreadId) (r : Request γ) :
    (a.perform t r).2.KnowsIssued := by
  intro id hid
  obtain ⟨before, -, hengine⟩ := reaches_perform t a r
  have hkept (hold : a.directory.contains id = true) : (a.perform t r).2.engine.Issued id :=
    hengine ▸ (h id hold).run _
  rw [(Step.performed t r a).directory] at hid
  cases r with
  | createAccount settings makeDefault =>
    rcases hanswer : (a.createAccount t settings makeDefault).1 with fault | j
    · simp only [Agent.perform, hanswer] at hid
      exact hkept hid
    · simp only [Agent.perform, hanswer] at hid
      rcases Directory.contains_insert.1 hid with rfl | hold
      · exact issued_createAccount hanswer
      · exact hkept hold
  | shutdown j =>
    refine hkept ?_
    rcases hanswer : (a.shutdown t j).1 with fault | _
    · simp only [Agent.perform, hanswer] at hid
      exact hid
    · simp only [Agent.perform, hanswer, Request.events] at hid
      split at hid
      · exact (Directory.contains_remove.1 hid).2
      · exact hid
  | destroy =>
    refine hkept ?_
    simp only [Request.events] at hid
    split at hid
    · exact hid
    · -- the teardown has emptied the directory
      exact absurd hid (by simp [AccountEvent.applyTo, Directory.contains, Directory.get?])
  | _ => exact hkept hid

/-- An account that leaves the directory with a shutdown is lost to the engine. -/
lemma Tracks.shutdown (h : a.Tracks id) (hsound : a.engine.Sound) (hissued : a.KnowsIssued)
    (t : ThreadId) (j : AccountId) : (a.shutdown t j).2.Tracks id := by
  obtain ⟨before, -, hengine⟩ := reaches_shutdown t j a
  rcases h with hcontains | hlost
  · have houtcome := shutdown_outcome t j a
    have hissued' : (a.shutdown t j).2.engine.Issued id := hengine ▸ (hissued id hcontains).run _
    clear hengine
    generalize a.shutdown t j = r at houtcome hissued' ⊢
    by_cases hj : id = j
    · subst hj
      cases houtcome with
      | skipped h => exact .inl hcontains
      | forgotten hknown hlost =>
        refine .inr ⟨hissued', ?_⟩
        simpa [hasLost_of_sound hsound, forget] using hlost
      | deleted hknown hheld => exact .inr ⟨hissued', Engine.holds_without id _⟩
      | refused hknown hheld hfailing => exact .inl hcontains
    · cases houtcome with
      | forgotten hknown hlost | deleted hknown hheld =>
        exact .inl (Directory.contains_remove.2 ⟨hj, hcontains⟩)
      | skipped h | refused hknown hheld hfailing => exact .inl hcontains
  · exact .inr (hengine ▸ hlost.run _)

/-- Whatever is asked, an account stays tracked until the teardown. -/
lemma Tracks.perform (h : a.Tracks id) (hsound : a.engine.Sound) (hissued : a.KnowsIssued)
    (t : ThreadId) {r : Request γ} (hr : r ≠ .destroy) : (a.perform t r).2.Tracks id := by
  by_cases hshutdown : ∃ j, r = .shutdown j
  · obtain ⟨j, rfl⟩ := hshutdown
    exact h.shutdown hsound hissued t j
  · obtain ⟨before, -, hengine⟩ := reaches_perform t a r
    refine h.imp (fun hcontains => ?_) fun hlost => hengine ▸ hlost.run _
    rw [(Step.performed t r a).directory]
    cases r with
    | createAccount settings makeDefault =>
      rcases hanswer : (a.createAccount t settings makeDefault).1 with fault | j
      · simp only [Agent.perform, hanswer]
        exact hcontains
      · simp only [Agent.perform, hanswer]
        exact Directory.contains_insert.2 (.inr hcontains)
    | shutdown j => exact absurd ⟨j, rfl⟩ hshutdown
    | destroy => exact absurd rfl hr
    | _ => exact hcontains

/-! ### What is so of all handles -/

lemma contains_enter? {j : AccountId} {report : RegReport} (h : a.enter? j report = some a') :
    a'.directory.contains id = true ↔ id = j ∨ a.directory.contains id = true := by
  rw [directory_enter? h, Directory.contains_modify, Directory.contains_insert]

lemma KnowsIssued.does {kind : EngineOp → Prop} {x : Act γ} (h : a.KnowsIssued)
    (hsound : a.engine.Sound) (hdoes : Does (.byOps kind) a x a') : a'.KnowsIssued := by
  obtain ⟨ops, hops, -⟩ := hdoes.engine
  have hkept {id : AccountId} (hold : a.directory.contains id = true) : a'.engine.Issued id :=
    hops ▸ (h id hold).run ops
  intro id hid
  cases hdoes with
  | performed t r a => exact h.perform t r id hid
  | entered henter =>
    rename_i j report
    rcases (contains_enter? henter).1 hid with rfl | hold
    · -- a report is entered of accounts that are known already, or are held by the engine
      have hknown : (a.enter? id report).isSome = true := by rw [henter]; rfl
      rcases (enter?_isSome a id report).1 hknown with hold | hheld
      · exact hkept hold
      · exact hops ▸ (hsound.issued hheld).run ops
    · exact hkept hold
  | registered t a | prepared e a | changed hchange a | dropped a => exact hkept hid

lemma Tracks.does {kind : EngineOp → Prop} {x : Act γ} (h : a.Tracks id) (hsound : a.engine.Sound)
    (hissued : a.KnowsIssued) (hdoes : Does (.byOps kind) a x a') (hopen' : a'.closing = false) :
    a'.Tracks id := by
  have hclosing := hdoes.closing_iff
  rw [hopen'] at hclosing
  obtain ⟨ops, hops, -⟩ := hdoes.engine
  have hlost (hlost : Engine.Lost id a.engine) : Engine.Lost id a'.engine := hops ▸ hlost.run ops
  cases hdoes with
  | performed t r a =>
    have hr : r ≠ .destroy := by
      rintro rfl
      exact absurd (hclosing.2 (.inr ⟨t, rfl⟩)) (by simp)
    exact h.perform hsound hissued t hr
  | entered henter =>
    exact h.imp (fun hcontains => (contains_enter? henter).2 (.inr hcontains)) hlost
  | registered t a | prepared e a | changed hchange a | dropped a => exact h.imp_right hlost

/-- A handle is handed out of an account that is in the directory then. -/
lemma Does.contains_of_handsOut {allowed : Changes} {x : Act γ} (hdoes : Does allowed a x a')
    (h : HandsOut id (a, x)) : a'.directory.contains id = true := by
  cases hdoes with
  | performed t r a => exact Agent.contains_of_handsOut h
  | entered henter => exact (contains_enter? henter).2 (.inl (Eq.symm h))
  | registered t a | prepared e a | changed hchange a | dropped a => exact h.elim

/-- What is so at any time: the engine is sound, it has given out the numbers that the directory
knows, and every account of which a handle was handed out is tracked, unless the teardown has
begun. -/
structure HandlesTracked (before : History δ κ γ) (a : Agent δ κ γ) : Prop where
  sound : a.engine.Sound
  issued : a.KnowsIssued
  tracked : a.closing = false → ∀ x ∈ before, ∀ id, HandsOut id x → a.Tracks id

lemma kept_handlesTracked {kind : EngineOp → Prop} :
    Kept (.byOps kind) (HandlesTracked (δ := δ) (κ := κ) (γ := γ)) where
  act := by
    intro before a a' x h hdoes
    obtain ⟨ops, hops, -⟩ := hdoes.engine
    refine ⟨hops ▸ h.sound.run ops, h.issued.does h.sound hdoes, fun hopen' y hy id hhands => ?_⟩
    have hopen : a.closing = false := by
      rw [← Bool.not_eq_true]
      intro hclosing
      exact absurd (hdoes.closing_iff.2 (.inl hclosing)) (by simp [hopen'])
    rcases List.mem_append.1 hy with hy | hy
    · exact (h.tracked hopen y hy id hhands).does h.sound h.issued hdoes hopen'
    · obtain rfl := List.mem_singleton.1 hy
      exact .inl (hdoes.contains_of_handsOut hhands)
  dispatched := by
    intro before a callee data returns h
    refine ⟨h.sound, h.issued, fun hopen y hy id hhands => ?_⟩
    rcases List.mem_append.1 hy with hy | hy
    · exact h.tracked hopen y hy id hhands
    · -- no handle is handed out with a still
      obtain rfl := List.mem_singleton.1 hy
      exact hhands.elim
  counted := fun f h => ⟨h.sound, h.issued, h.tracked⟩

/-! ### A single shutdown -/

/-- Nothing is left of the account. -/
structure Removed (id : AccountId) (a : Agent δ κ γ) : Prop where
  unknown : a.directory.contains id = false
  not_held : a.engine.holds id = false
  not_default : a.engine.defaultAccount ≠ some id

/-- The agent with an engine that deletes accounts when it is asked to. -/
def mendDelete (a : Agent δ κ γ) : Agent δ κ γ :=
  { a with engine := a.engine.mend (.command .accountDelete) }

/-- What a shutdown does.  If it succeeds, nothing is left of the account; if it is refused, the
account and its record are what they were, and a shutdown succeeds as soon as the engine does not
fail any more.  The other accounts, their records and their order are spared. -/
structure ShutsDown (a : Agent δ κ γ) (t : ThreadId) (id : AccountId) : Prop where
  removed : (a.shutdown t id).1 = .ok () → Removed id (a.shutdown t id).2
  refused : ∀ fault, (a.shutdown t id).1 = .error fault →
    (a.shutdown t id).2.directory = a.directory
      ∧ (a.shutdown t id).2.engine.account? id = a.engine.account? id
      ∧ ∀ u, ((a.shutdown t id).2.mendDelete.shutdown u id).1 = .ok ()
          ∧ Removed id ((a.shutdown t id).2.mendDelete.shutdown u id).2
  records : (a.shutdown t id).2.directory.remove id = a.directory.remove id
  order : (a.shutdown t id).2.directory.ids.filter (· != id) = a.directory.ids.filter (· != id)
  accounts : ((a.shutdown t id).2.engine.without id).accounts = (a.engine.without id).accounts
  default_account : ∀ j, j ≠ id →
    ((a.shutdown t id).2.engine.defaultAccount = some j ↔ a.engine.defaultAccount = some j)

lemma Removed.of_lost (hsound : a.engine.Sound) (hcontains : a.directory.contains id = false)
    (hheld : a.engine.holds id = false) : Removed id a where
  unknown := hcontains
  not_held := hheld
  not_default hdefault := by
    rw [hsound.default_held id hdefault] at hheld
    exact absurd hheld (by simp)

/-- A shutdown that succeeds has removed the account, if the account was tracked. -/
lemma removed_of_ok (hsound : a.engine.Sound) (htracks : a.Tracks id) (hserves : a.serves = true)
    (h : (a.shutdown t id).1 = .ok ()) : Removed id (a.shutdown t id).2 := by
  obtain ⟨before, -, hengine⟩ := reaches_shutdown t id a
  have hsound' : (a.shutdown t id).2.engine.Sound := hengine ▸ hsound.run _
  clear hengine
  have houtcome := shutdown_outcome t id a
  generalize a.shutdown t id = r at houtcome hsound' h ⊢
  have hforgotten : (a.directory.remove id).contains id = false := by
    simp [Directory.contains, Directory.get?_remove]
  cases houtcome with
  | skipped hskip =>
    -- the directory does not know the account, so the engine has lost it
    have hunknown : a.directory.contains id = false := by simpa [hserves] using hskip
    have hlost := htracks.resolve_left (by simp [hunknown])
    exact .of_lost hsound hunknown hlost.not_held
  | forgotten hknown hlost =>
    refine .of_lost hsound' hforgotten ?_
    simpa [hasLost_of_sound hsound, forget] using hlost
  | deleted hknown hheld =>
    exact .of_lost hsound' hforgotten (Engine.holds_without id _)
  | refused hknown hheld hfailing => exact absurd h (by simp)

/-- A shutdown succeeds if the engine is not told to fail. -/
lemma ok_of_not_failing (h : a.engine.failure? (.command .accountDelete) = none) :
    (a.shutdown t id).1 = .ok () := by
  have houtcome := shutdown_outcome t id a
  generalize a.shutdown t id = r at houtcome ⊢
  cases houtcome with
  | skipped hskip | forgotten hknown hlost | deleted hknown hheld => rfl
  | refused hknown hheld hfailing =>
    rw [h] at hfailing
    exact absurd hfailing (by simp)

/-- A shutdown that is refused leaves the account and its record as they are. -/
lemma eq_of_error {fault : Fault} (h : (a.shutdown t id).1 = .error fault) :
    (a.shutdown t id).2.directory = a.directory
      ∧ (a.shutdown t id).2.engine.account? id = a.engine.account? id := by
  have houtcome := shutdown_outcome t id a
  generalize a.shutdown t id = r at houtcome h ⊢
  cases houtcome with
  | skipped hskip | forgotten hknown hlost | deleted hknown hheld => exact absurd h (by simp)
  | refused hknown hheld hfailing =>
    obtain ⟨threads, hengine⟩ := a.engine_ensureThread t
    exact ⟨rfl, by rw [hengine]; rfl⟩

/-- The directory is the same apart from the account. -/
lemma remove_shutdown (a : Agent δ κ γ) (t : ThreadId) (id : AccountId) :
    (a.shutdown t id).2.directory.remove id = a.directory.remove id := by
  have houtcome := shutdown_outcome t id a
  generalize a.shutdown t id = r at houtcome ⊢
  cases houtcome with
  | forgotten hknown hlost | deleted hknown hheld => exact Directory.remove_remove a.directory id
  | skipped hskip | refused hknown hheld hfailing => rfl

/-- The accounts of the engine are the same apart from the account. -/
lemma without_shutdown (a : Agent δ κ γ) (t : ThreadId) (id : AccountId) :
    ((a.shutdown t id).2.engine.without id).accounts = (a.engine.without id).accounts
      ∧ ∀ j, j ≠ id →
        ((a.shutdown t id).2.engine.defaultAccount = some j
          ↔ a.engine.defaultAccount = some j) := by
  have houtcome := shutdown_outcome t id a
  generalize a.shutdown t id = r at houtcome ⊢
  cases houtcome with
  | skipped hskip => exact ⟨rfl, fun j hj => .rfl⟩
  | forgotten hknown hlost | refused hknown hheld hfailing =>
    exact ⟨by simp [Engine.without, Engine.note, forget], by simp [Engine.note, forget]⟩
  | deleted hknown hheld =>
    refine ⟨by simp [Engine.without, Engine.note, List.filter_filter], fun j hj => ?_⟩
    -- the default account goes only if it is the one that is deleted
    by_cases hdefault : a.engine.defaultAccount = some id
    · simp [Engine.without, Engine.note, hdefault, Ne.symm hj]
    · simp [Engine.without, Engine.note, hdefault]

/-- What a shutdown does to the account that it is about, and to the others. -/
lemma shutsDown (hsound : a.engine.Sound) (hissued : a.KnowsIssued) (htracks : a.Tracks id)
    (hserves : a.serves = true) (t : ThreadId) : a.ShutsDown t id where
  removed := removed_of_ok hsound htracks hserves
  refused := by
    intro fault h
    obtain ⟨hdirectory, haccount⟩ := eq_of_error h
    refine ⟨hdirectory, haccount, fun u => ?_⟩
    obtain ⟨before, -, hengine⟩ := reaches_shutdown t id a
    have hbooks := keepsBooks_shutdown t id a
    have htracks' := htracks.shutdown hsound hissued t id
    have hsound' : (a.shutdown t id).2.engine.Sound := hengine ▸ hsound.run _
    generalize (a.shutdown t id).2 = a' at hbooks htracks' hsound' ⊢
    have hserves' : a'.mendDelete.serves = true := by
      rw [← hserves]
      simp only [serves, mendDelete, hbooks.gone, hbooks.closing]
    have hmended : a'.mendDelete.Tracks id :=
      htracks'.imp_right fun hlost => hlost.run [.mend (.command .accountDelete)]
    have hok : (a'.mendDelete.shutdown u id).1 = .ok () :=
      ok_of_not_failing (by simp [mendDelete, Engine.mend])
    exact ⟨hok, removed_of_ok (hsound'.run [.mend (.command .accountDelete)]) hmended hserves' hok⟩
  records := remove_shutdown a t id
  order := by
    rw [← Directory.ids_remove, ← Directory.ids_remove, remove_shutdown]
  accounts := (without_shutdown a t id).1
  default_account := (without_shutdown a t id).2

end Agent

namespace World

/-- At any time before the teardown, whoever has got a handle of an account, from a request or
together with a report, can shut the account down with it.  If that succeeds, the account is neither
in the directory nor held by the engine, nor is it the default account, even if there was nothing
left to do; if it is refused, nothing has happened to the account, and it can be shut down later.
All other accounts, their records and their order stay as they are. -/
theorem shutdown_removes_account (o : Observers γ σ) (limit : Nat) {w : World δ κ γ σ}
    (hnew : w.agent.IsNew)
    (hengine : ∃ codecs ops, w.agent.engine = (Engine.run ops { codecs }).2)
    {ops : List (AgentOp γ)} (hops : ∀ op ∈ ops, op.Within (.byOps fun _ => True)) :
    ∀ before x after, w.history o limit ops = before ++ x :: after → x.1.serves = true →
      ∀ id, (∃ y ∈ before, Agent.HandsOut id y) → ∀ t, x.1.ShutsDown t id := by
  intro before x after hsplit hserves id hhandle t
  have hcourse := course_run (fun id status expires => ⟨_, trivial, rfl⟩) o limit w hops
  have hstart : Agent.HandlesTracked [] w.agent := by
    refine ⟨Engine.sound_of_run hengine, fun j hj => ?_, fun _ y hy => absurd hy (by simp)⟩
    rw [hnew.directory] at hj
    exact absurd hj (by simp [Directory.contains, Directory.get?])
  have halong := (hcourse.along Agent.kept_handlesTracked hstart).1
  rw [hsplit] at halong
  have hnow : Agent.HandlesTracked before x.1 := by simpa using halong.at_split
  have hopen : x.1.closing = false := by
    simp only [Agent.serves, Bool.and_eq_true, Bool.not_eq_true'] at hserves
    exact hserves.2
  obtain ⟨y, hy, hhands⟩ := hhandle
  exact Agent.shutsDown hnow.sound hnow.issued (hnow.tracked hopen y hy id hhands) hserves t

/-- Two accounts are created.  The engine refuses to delete the first one and then does so; the
second one is dropped by the engine, and the handles of both are tried afterwards. -/
def shutdownsInTurn : List (AgentOp Unit) :=
  let settings : AccountSettings := { idUri := "sip:a@example.com" }
  [.ask 1 .create, .ask 1 (.init {}), .ask 1 (.createAccount settings true),
    .ask 1 (.createAccount settings false),
    .engine fun e => (e.apply (.fail (.command .accountDelete) 70001)).2, .ask 1 (.shutdown 0),
    .engine fun e => (e.apply (.mend (.command .accountDelete))).2, .ask 1 (.shutdown 0),
    .ask 1 (.shutdown 0), .engine fun e => (e.apply (.invalidate 1)).2, .ask 2 (.shutdown 1),
    .ask 2 .accounts]

theorem shutdown_removes_account_in_turn :
    let acts := bare.history {} 1 shutdownsInTurn
    let a (n : Nat) := (bare.run {} 1 (shutdownsInTurn.take n)).agent
    bare.agent.IsNew
    ∧ (∃ codecs ops, bare.agent.engine = (Engine.run ops { codecs }).2)
    ∧ (∀ op ∈ shutdownsInTurn, op.Within (.byOps fun _ => True))
    ∧ acts = acts.take 5 ++ (a 5, .perform 1 (.shutdown 0)) :: acts.drop 6
    ∧ (a 5).serves = true ∧ (∃ y ∈ acts.take 5, Agent.HandsOut 0 y)
    ∧ ((a 5).shutdown 1 0).1 = .error (.engine "delete account" 70001)
    ∧ ((a 7).shutdown 1 0).1 = .ok () ∧ ((a 8).shutdown 1 0).1 = .ok ()
    ∧ ((a 10).shutdown 2 1).1 = .ok () ∧ (a 11).directory.ids = []
    ∧ (a 5).ShutsDown 1 0 := by
  intro acts a
  have hnew : bare.agent.IsNew := ⟨rfl, rfl, rfl⟩
  have hengine : ∃ codecs ops, bare.agent.engine = (Engine.run ops { codecs }).2 :=
    ⟨defaultCodecs, [], rfl⟩
  have hops : ∀ op ∈ shutdownsInTurn, op.Within (.byOps fun _ => True) := by
    simp only [shutdownsInTurn, List.forall_mem_cons]
    exact ⟨trivial, trivial, trivial, trivial, ⟨_, trivial, rfl⟩, trivial, ⟨_, trivial, rfl⟩,
      trivial, trivial, ⟨_, trivial, rfl⟩, trivial, trivial, fun op hop => absurd hop (by simp)⟩
  have hsplit : acts = acts.take 5 ++ (a 5, .perform 1 (.shutdown 0)) :: acts.drop 6 := rfl
  have hhandle : ∃ y ∈ acts.take 5, Agent.HandsOut 0 y :=
    ⟨(a 2, .perform 1 (.createAccount { idUri := "sip:a@example.com" } true)), by
      exact List.mem_of_getElem? (i := 2) rfl, rfl⟩
  exact ⟨hnew, hengine, hops, hsplit, rfl, hhandle, rfl, rfl, rfl, rfl, rfl,
    shutdown_removes_account {} 1 hnew hengine hops _ _ _ hsplit rfl 0 hhandle 1⟩

end World
end SipStills
