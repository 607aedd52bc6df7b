/-
# What is always so of an engine

Between two operations an engine is `Sound`: it is at one of four stages, it holds accounts and
transports only while it serves them, its default account is one that it holds, its accounts are
numbered in order below the next number, and what it says about the presence of an account agrees
with the account's registration.

What it has given out since it was made is `Accounted`: the numbers of accounts, of transports and
of calls are each `0, 1, 2, …` in the order in which they were given, whatever was torn down and
made again in between, and the calls that it has recorded are the calls that it has answered, each
of them allowed when it was made.

Both are kept by every move (`Sound.move`, `Accounted.move`), and so by every run
(`sound_and_accounted_run`).
-/
import SipStills.Proofs.Engine.Moves

namespace SipStills

/-- The presence of an account is that of its registration. -/
def AccountInfo.ShowsPresence (i : AccountInfo) : Prop :=
  i.online = i.isActive ∧ i.onlineText = if i.isActive then "Online" else "Offline"

namespace Engine

variable {e e' : Engine} {issue? : Option Issue}

lemma holds_iff {id : AccountId} : e.holds id = true ↔ ∃ a ∈ e.accounts, a.id = id := by
  simp [holds, account?]

@[simp] lemma id_answerIn (id : AccountId) (status : StatusCode) (expires : UInt32)
    (a : EngineAccount) : (answerIn id status expires a).id = a.id := by
  unfold answerIn
  split <;> rfl

/-! ### Soundness -/

/-- What is so of an engine between two operations. -/
structure Sound (e : Engine) : Prop where
  stage : e.state = .null ∨ e.state = .created ∨ e.state = .init ∨ e.state = .running
  served : e.accounts ≠ [] ∨ e.transports ≠ [] → e.state = .init ∨ e.state = .running
  default_held : ∀ id, e.defaultAccount = some id → e.holds id = true
  numbered : ∀ a ∈ e.accounts, ∃ n < e.nextAccount, a.id = (n : AccountId)
  ordered : e.accounts.Pairwise fun a b => a.id < b.id
  presence : ∀ a ∈ e.accounts, a.info.ShowsPresence

/-- An engine that has just been made is sound. -/
lemma sound_new (codecs : List CodecDescriptor) : Sound { codecs } where
  stage := .inl rfl
  served h := by simp at h
  default_held id h := absurd h (by simp)
  numbered a h := absurd h (by simp)
  ordered := .nil
  presence a h := absurd h (by simp)

namespace Sound

/-- While the engine serves, it is initialised or it runs. -/
lemma state_of_serves (h : e.Sound) (hserves : e.state.serves = true) :
    e.state = .init ∨ e.state = .running := by
  rcases h.stage with hstate | hstate | hstate
  · rw [hstate] at hserves
    exact absurd hserves (by decide)
  · rw [hstate] at hserves
    exact absurd hserves (by decide)
  · exact hstate

/-- Before it serves, it holds nothing. -/
lemma holds_nothing (h : e.Sound) (hstate : e.state = .null ∨ e.state = .created) :
    ¬ (e.accounts ≠ [] ∨ e.transports ≠ []) := by
  intro hholding
  rcases h.served hholding with hserves | hserves <;> rcases hstate with hs | hs <;>
    rw [hs] at hserves <;> exact absurd hserves (by decide)

/-- The number of the next account is beyond those of the accounts held. -/
lemma lt_nextAccount (h : e.Sound) {a : EngineAccount} (ha : a ∈ e.accounts) :
    a.id < e.nextAccount := by
  obtain ⟨n, hn, hid⟩ := h.numbered a ha
  rw [hid]
  exact_mod_cast hn

lemma accountAdded (h : e.Sound) (hserves : e.state.serves = true) (settings : AccountSettings)
    (makeDefault : Bool) (unanswered : List (AccountId × UInt32)) :
    Sound
      { e with
        nextAccount := e.nextAccount + 1
        accounts := e.accounts ++ [⟨e.nextAccount, settings.timeout, newInfo settings⟩]
        defaultAccount := if makeDefault then some (e.nextAccount : AccountId) else e.defaultAccount
        unanswered } where
  stage := h.stage
  served _ := h.state_of_serves hserves
  default_held := by
    intro id hid
    rw [holds_iff]
    cases makeDefault with
    | true =>
      obtain rfl := Option.some.inj hid
      exact ⟨⟨e.nextAccount, settings.timeout, newInfo settings⟩, by simp, rfl⟩
    | false =>
      obtain ⟨a, ha, haid⟩ := holds_iff.1 (h.default_held id hid)
      exact ⟨a, by simp [ha], haid⟩
  numbered := by
    intro a ha
    rcases List.mem_append.1 ha with ha | ha
    · obtain ⟨n, hn, hid⟩ := h.numbered a ha
      exact ⟨n, by simp only; omega, hid⟩
    · obtain rfl := List.mem_singleton.1 ha
      exact ⟨e.nextAccount, by simp, rfl⟩
  ordered := by
    refine List.pairwise_append.2 ⟨h.ordered, List.pairwise_singleton _ _, ?_⟩
    intro a ha b hb
    obtain rfl := List.mem_singleton.1 hb
    exact h.lt_nextAccount ha
  presence := by
    intro a ha
    rcases List.mem_append.1 ha with ha | ha
    · exact h.presence a ha
    · -- an account that is new has not been registered
      obtain rfl := List.mem_singleton.1 ha
      have hidle : (newInfo settings).isActive = false := by
        simp [newInfo, AccountInfo.isActive]
      exact ⟨hidle.symm, by rw [hidle]; rfl⟩

lemma without (h : e.Sound) (id : AccountId) : (e.without id).Sound where
  stage := h.stage
  served := by
    intro hholding
    refine h.served (hholding.imp_left fun hleft hnone => hleft ?_)
    simp [Engine.without, hnone]
  default_held := by
    intro j hj
    -- were it the one that is dropped, there would be no default account any more
    have hne : e.defaultAccount ≠ some id := by
      intro heq
      simp [Engine.without, heq] at hj
    have hdefault : e.defaultAccount = some j := by simpa [Engine.without, hne] using hj
    obtain ⟨a, ha, haid⟩ := holds_iff.1 (h.default_held j hdefault)
    refine holds_iff.2 ⟨a, List.mem_filter.2 ⟨ha, ?_⟩, haid⟩
    have hother : a.id ≠ id := by
      rintro rfl
      exact hne (haid ▸ hdefault)
    simpa using hother
  numbered a ha := h.numbered a (List.mem_filter.1 ha).1
  ordered := h.ordered.filter _
  presence a ha := h.presence a (List.mem_filter.1 ha).1

lemma registrarAnswered (h : e.Sound) (id : AccountId) (status : StatusCode) (expires : UInt32) :
    Sound { e with accounts := e.accounts.map (answerIn id status expires) } where
  stage := h.stage
  served := by
    intro hholding
    refine h.served (hholding.imp_left fun hleft hnone => hleft ?_)
    simp [hnone]
  default_held := by
    intro j hj
    obtain ⟨a, ha, haid⟩ := holds_iff.1 (h.default_held j hj)
    exact holds_iff.2 ⟨_, List.mem_map_of_mem ha, by simpa using haid⟩
  numbered := by
    intro a ha
    obtain ⟨b, hb, rfl⟩ := List.mem_map.1 ha
    simpa using h.numbered b hb
  ordered := List.pairwise_map.2 (by simpa using h.ordered)
  presence := by
    intro a ha
    obtain ⟨b, hb, rfl⟩ := List.mem_map.1 ha
    unfold answerIn
    split
    · -- whether the registration is active is not read off the presence
      exact ⟨rfl, rfl⟩
    · exact h.presence b hb

/-- A move keeps an engine sound. -/
lemma move (h : e.Sound) (hmove : Move e issue? e') : e'.Sound := by
  cases hmove with
  | aside log failure? threads answersItself unanswered =>
    exact ⟨h.stage, h.served, h.default_held, h.numbered, h.ordered, h.presence⟩
  | created hstate =>
    exact ⟨.inr (.inl rfl), fun hholding => absurd hholding (h.holds_nothing (.inl hstate)),
      h.default_held, h.numbered, h.ordered, h.presence⟩
  | initialised hstate =>
    exact ⟨.inr (.inr (.inl rfl)), fun _ => .inl rfl, h.default_held, h.numbered, h.ordered,
      h.presence⟩
  | started hstate =>
    exact ⟨.inr (.inr (.inr rfl)), fun _ => .inr rfl, h.default_held, h.numbered, h.ordered,
      h.presence⟩
  | destroyed =>
    exact ⟨.inl rfl, fun hholding => by simp at hholding, fun id hid => absurd hid (by simp),
      fun a ha => absurd ha (by simp), .nil, fun a ha => absurd ha (by simp)⟩
  | transportCreated hserves kind port =>
    exact ⟨h.stage, fun _ => h.state_of_serves hserves, h.default_held, h.numbered, h.ordered,
      h.presence⟩
  | accountAdded hserves settings makeDefault unanswered =>
    exact h.accountAdded hserves settings makeDefault unanswered
  | defaultSet hholds =>
    refine ⟨h.stage, h.served, fun j hj => ?_, h.numbered, h.ordered, h.presence⟩
    obtain rfl := Option.some.inj hj
    exact hholds
  | accountDropped id => exact h.without id
  | registrarAnswered id status expires => exact h.registrarAnswered id status expires
  | called settings hrunning hholds htarget =>
    exact ⟨h.stage, h.served, h.default_held, h.numbered, h.ordered, h.presence⟩

/-- What the engine says about an account: its presence is that of its registration, and it is the
default account or it is not. -/
lemma snapshot (h : e.Sound) {id : AccountId} {i : AccountInfo} (hi : e.snapshot? id = some i) :
    i.ShowsPresence ∧ (i.isDefault = true ↔ e.defaultAccount = some id) := by
  obtain ⟨a, ha, rfl⟩ := Option.map_eq_some_iff.1 hi
  exact ⟨h.presence a (List.mem_of_find?_eq_some ha), decide_eq_true_iff⟩

end Sound
end Engine

/-! ### What was given out -/

namespace Issue

/-- The number, if it is that of an account. -/
def account? : Issue → Option AccountId
  | .account id => some id
  | .transport _ | .call _ _ => none

/-- The number, if it is that of a transport. -/
def transport? : Issue → Option Nat
  | .transport id => some id
  | .account _ | .call _ _ => none

/-- The call with its number, if it is a call. -/
def call? : Issue → Option (Play × Nat)
  | .call id play => some (play, id)
  | .account _ | .transport _ => none

/-- What is given out may be given out by the engine: a call is made while the engine runs, from an
account that it holds, to a SIP address. -/
def AllowedBy (e : Engine) : Issue → Prop
  | .account _ | .transport _ => e.state.serves = true
  | .call _ play => e.state = .running ∧ e.holds play.account = true ∧ isSipUri play.target = true

end Issue

namespace Engine

variable {e e' : Engine} {issue? : Option Issue}

/-- What an engine has given out since it was made, oldest first, each with the engine as it was
then. -/
structure Accounted (given : List (Engine × Issue)) (e : Engine) : Prop where
  accounts : given.filterMap (fun x => x.2.account?) = (List.range e.nextAccount).map Int.ofNat
  transports : given.filterMap (fun x => x.2.transport?) = List.range e.nextTransport
  calls : given.filterMap (fun x => x.2.call?) = e.plays.zipIdx
  count : e.plays.length = e.nextCall
  allowed : ∀ x ∈ given, x.2.AllowedBy x.1

lemma accounted_new (codecs : List CodecDescriptor) : Accounted [] { codecs } where
  accounts := rfl
  transports := rfl
  calls := rfl
  count := rfl
  allowed x h := absurd h (by simp)

lemma Move.allowedBy {i : Issue} (hmove : Move e (some i) e') : i.AllowedBy e := by
  cases hmove with
  | transportCreated hserves kind port => exact hserves
  | accountAdded hserves settings makeDefault unanswered => exact hserves
  | called settings hrunning hholds htarget => exact ⟨hrunning, hholds, htarget⟩

namespace Accounted

variable {given : List (Engine × Issue)}

/-- What gives out nothing leaves the counters and the calls as they are. -/
lemma silent (h : Accounted given e) (haccount : e'.nextAccount = e.nextAccount)
    (htransport : e'.nextTransport = e.nextTransport) (hcall : e'.nextCall = e.nextCall)
    (hplays : e'.plays = e.plays) : Accounted (given ++ []) e' := by
  rw [List.append_nil]
  exact ⟨haccount ▸ h.accounts, htransport ▸ h.transports, hplays ▸ h.calls,
    by rw [hplays, hcall, h.count], h.allowed⟩

/-- A move gives out the next number, if it gives out one. -/
lemma move (h : Accounted given e) (hmove : Move e issue? e') {now : Engine}
    (hallowed : ∀ i, issue? = some i → i.AllowedBy now) :
    Accounted (given ++ (issue?.map (now, ·)).toList) e' := by
  have hgiven : ∀ i, issue? = some i → ∀ x ∈ given ++ [(now, i)], x.2.AllowedBy x.1 := by
    intro i hi x hx
    rcases List.mem_append.1 hx with hx | hx
    · exact h.allowed x hx
    · obtain rfl := List.mem_singleton.1 hx
      exact hallowed i hi
  cases hmove with
  | aside log failure? threads answersItself unanswered => exact h.silent rfl rfl rfl rfl
  | created hstate | initialised hstate | started hstate | destroyed =>
    exact h.silent rfl rfl rfl rfl
  | defaultSet hholds | accountDropped id | registrarAnswered id status expires =>
    exact h.silent rfl rfl rfl rfl
  | transportCreated hserves kind port =>
    refine ⟨?_, ?_, ?_, h.count, hgiven _ rfl⟩
    · simpa [Issue.account?] using h.accounts
    · rw [List.filterMap_append, h.transports]
      simp [Issue.transport?, List.range_succ]
    · simpa [Issue.call?] using h.calls
  | accountAdded hserves settings makeDefault unanswered =>
    refine ⟨?_, ?_, ?_, h.count, hgiven _ rfl⟩
    · rw [List.filterMap_append, h.accounts]
      simp [Issue.account?, List.range_succ]
    · simpa [Issue.transport?] using h.transports
    · simpa [Issue.call?] using h.calls
  | called settings hrunning hholds htarget =>
    refine ⟨?_, ?_, ?_, ?_, hgiven _ rfl⟩
    · simpa [Issue.account?] using h.accounts
    · simpa [Issue.transport?] using h.transports
    · rw [List.filterMap_append, h.calls, List.zipIdx_append]
      simp [Issue.call?, h.count]
    · simp [h.count]

end Accounted

/-! ### Runs -/

/-- Operations one after the other; the answer is what is given out, each with the engine as it was
then. -/
def run : List EngineOp → Engine → List (Engine × Issue) × Engine
  | [], e => ([], e)
  | op :: ops, e =>
    let r := e.apply op
    let rest := run ops r.2
    ((r.1.map (e, ·)).toList ++ rest.1, rest.2)

/-- One operation keeps both; the record of the command does not matter to either. -/
lemma sound_and_accounted_apply {given : List (Engine × Issue)} (hsound : e.Sound)
    (haccounted : Accounted given e) (op : EngineOp) :
    (e.apply op).2.Sound
      ∧ Accounted (given ++ ((e.apply op).1.map (e, ·)).toList) (e.apply op).2 := by
  -- the move is that of the engine with another log
  obtain ⟨log, hmove⟩ := move_apply e op
  have hsound' : Sound { e with log } :=
    ⟨hsound.stage, hsound.served, hsound.default_held, hsound.numbered, hsound.ordered,
      hsound.presence⟩
  have haccounted' : Accounted given { e with log } :=
    ⟨haccounted.accounts, haccounted.transports, haccounted.calls, haccounted.count,
      haccounted.allowed⟩
  refine ⟨hsound'.move hmove, haccounted'.move hmove fun i hi => ?_⟩
  rw [hi] at hmove
  have hallowed := hmove.allowedBy
  cases i <;> exact hallowed

lemma sound_and_accounted_of_run {given : List (Engine × Issue)} (ops : List EngineOp)
    (hsound : e.Sound) (haccounted : Accounted given e) :
    (e.run ops).2.Sound ∧ Accounted (given ++ (e.run ops).1) (e.run ops).2 := by
  induction ops generalizing e given with
  | nil =>
    refine ⟨hsound, ?_⟩
    rw [show (e.run []).1 = [] from rfl, List.append_nil]
    exact haccounted
  | cons op ops ih =>
    obtain ⟨hsound', haccounted'⟩ := sound_and_accounted_apply hsound haccounted op
    obtain ⟨hsound'', haccounted''⟩ := ih hsound' haccounted'
    rw [List.append_assoc] at haccounted''
    exact ⟨hsound'', haccounted''⟩

/-- Whatever happens to an engine after it was made, it is sound between two operations, and what it
has given out is accounted for.  So no number of an account or of a transport is given twice, and
at most one account is said to be the default one. -/
theorem sound_and_accounted_run (codecs : List CodecDescriptor) (ops : List EngineOp) :
    let r := Engine.run ops { codecs }
    r.2.Sound ∧ Accounted r.1 r.2
      ∧ (r.1.filterMap fun x => x.2.account?).Nodup
      ∧ (r.1.filterMap fun x => x.2.transport?).Nodup
      ∧ (∀ id i, r.2.snapshot? id = some i → i.ShowsPresence)
      ∧ ∀ id id' i i', r.2.snapshot? id = some i → r.2.snapshot? id' = some i' →
          i.isDefault = true → i'.isDefault = true → id = id' := by
  intro r
  obtain ⟨hsound, haccounted⟩ : r.2.Sound ∧ Accounted ([] ++ r.1) r.2 :=
    sound_and_accounted_of_run ops (sound_new codecs) (accounted_new codecs)
  rw [List.nil_append] at haccounted
  refine ⟨hsound, haccounted, ?_, ?_, fun id i hi => (hsound.snapshot hi).1, ?_⟩
  · rw [haccounted.accounts]
    exact List.pairwise_map.2 (List.nodup_range.imp fun hne heq => hne (Int.ofNat.inj heq))
  · rw [haccounted.transports]
    exact List.nodup_range
  · intro id id' i i' hi hi' hdefault hdefault'
    have hid := (hsound.snapshot hi).2.1 hdefault
    have hid' := (hsound.snapshot hi').2.1 hdefault'
    exact Option.some.inj (hid.symm.trans hid')

end Engine
end SipStills
