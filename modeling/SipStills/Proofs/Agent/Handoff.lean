/-
# Codecs on their way to a reader

The codecs are asked for by a worker, which hands them to a reader through a queue of bounded
capacity.  Worker and reader go on independently of each other (`Handoff.Step`): the worker waits
while the queue is full, the reader while it is empty, and a reader that has seen enough leaves.
The worker releases its thread before the reader can see the end.

However their steps are interleaved, what the reader has seen, what is in the queue and what is
still to be sent are the codecs in order (`Handoff.Sound`).  No run goes on for ever
(`Handoff.Run.length_le`) or gets stuck (`Handoff.progress`), and so every run can be completed, and
what it comes to is what `Agent.listCodecs` says (`Handoff.Final.outcome`).  The capacity of the
queue does not show.

For an agent as it can be at any time, this is the head of the table of codecs that its engine was
made with, and the threads that are registered are the same as before
(`World.codecs_are_handed_over`).
-/
import SipStills.Proofs.Agent.Reach
import SipStills.Proofs.ThreadGate

namespace SipStills

variable {δ κ γ σ : Type}

/-! ### The mechanism -/

/-- What a worker is about to do. -/
inductive WorkerStage where
  /-- To ask the engine. -/
  | asking
  /-- To send codecs, of which these are left. -/
  | sending (rest : List CodecDescriptor)
  /-- To release its thread. -/
  | releasing
  /-- To close the queue. -/
  | closing
  /-- Nothing any more. -/
  | done

/-- What became of a reader. -/
inductive ReaderStage where
  /-- It reads on. -/
  | reading
  /-- It has left, and nothing can be sent to it any more. -/
  | left
  /-- It has seen the end. -/
  | ended

/-- An agent whose codecs are on their way to a reader. -/
structure Handoff (δ κ γ : Type) where
  /-- The agent. -/
  agent : Agent δ κ γ
  /-- The worker. -/
  worker : WorkerStage := .asking
  /-- What was sent and is not read yet, the oldest first. -/
  queue : List CodecDescriptor := []
  /-- The reader. -/
  reader : ReaderStage := .reading
  /-- What was read. -/
  seen : List CodecDescriptor := []

namespace Handoff

/-- The agent with the thread of the worker released. -/
def released (t : ThreadId) (a : Agent δ κ γ) : Agent δ κ γ := { a with gate := a.gate.release t }

/-- What the worker or the reader does next.  The reader wants so many codecs, or all of them. -/
inductive Step (capacity : Nat) (t : ThreadId) (wanted : Option Nat) :
    Handoff δ κ γ → Handoff δ κ γ → Prop where
  /-- The worker asks the engine. -/
  | asked {s : Handoff δ κ γ} (hworker : s.worker = .asking) :
      Step capacity t wanted s
        { s with
          agent := (s.agent.queryCodecs t).2
          worker := .sending (s.agent.queryCodecs t).1 }
  /-- There is room in the queue, and the worker sends a codec. -/
  | sent {s : Handoff δ κ γ} {c : CodecDescriptor} {rest : List CodecDescriptor}
      (hworker : s.worker = .sending (c :: rest)) (hreader : s.reader = .reading)
      (hroom : s.queue.length < capacity) :
      Step capacity t wanted s { s with worker := .sending rest, queue := s.queue ++ [c] }
  /-- Nobody is there to send a codec to, and the worker gives up. -/
  | refused {s : Handoff δ κ γ} {c : CodecDescriptor} {rest : List CodecDescriptor}
      (hworker : s.worker = .sending (c :: rest)) (hreader : s.reader ≠ .reading) :
      Step capacity t wanted s { s with worker := .releasing }
  /-- All codecs are sent. -/
  | finished {s : Handoff δ κ γ} (hworker : s.worker = .sending []) :
      Step capacity t wanted s { s with worker := .releasing }
  /-- The worker releases its thread. -/
  | released {s : Handoff δ κ γ} (hworker : s.worker = .releasing) :
      Step capacity t wanted s { s with agent := released t s.agent, worker := .closing }
  /-- The worker closes the queue. -/
  | closed {s : Handoff δ κ γ} (hworker : s.worker = .closing) :
      Step capacity t wanted s { s with worker := .done }
  /-- The reader wants a codec, and there is one. -/
  | received {s : Handoff δ κ γ} {c : CodecDescriptor} {queue : List CodecDescriptor}
      (hreader : s.reader = .reading) (hwanted : wanted ≠ some s.seen.length)
      (hqueue : s.queue = c :: queue) :
      Step capacity t wanted s { s with queue, seen := s.seen ++ [c] }
  /-- The reader has seen what it wants, and leaves. -/
  | left {s : Handoff δ κ γ} (hreader : s.reader = .reading)
      (hwanted : wanted = some s.seen.length) :
      Step capacity t wanted s { s with reader := .left }
  /-- The reader wants a codec, and finds the queue empty and closed. -/
  | ended {s : Handoff δ κ γ} (hreader : s.reader = .reading)
      (hwanted : wanted ≠ some s.seen.length) (hqueue : s.queue = []) (hworker : s.worker = .done) :
      Step capacity t wanted s { s with reader := .ended }

/-- Steps one after the other, with their number. -/
inductive Run (capacity : Nat) (t : ThreadId) (wanted : Option Nat) :
    Nat → Handoff δ κ γ → Handoff δ κ γ → Prop where
  | nil (s : Handoff δ κ γ) : Run capacity t wanted 0 s s
  | concat {n : Nat} {s s' s'' : Handoff δ κ γ} (h : Run capacity t wanted n s s')
      (hstep : Step capacity t wanted s' s'') : Run capacity t wanted (n + 1) s s''

/-- The worker is done, and the reader does not read on. -/
structure Final (s : Handoff δ κ γ) : Prop where
  worker : s.worker = .done
  reader : s.reader ≠ .reading

variable {capacity : Nat} {t : ThreadId} {wanted : Option Nat} {a : Agent δ κ γ}
  {s s' : Handoff δ κ γ}

/-! ### What every step keeps -/

/-- The codecs that the worker has not sent yet. -/
def unsent (t : ThreadId) (s : Handoff δ κ γ) : List CodecDescriptor :=
  match s.worker with
  | .asking => (s.agent.queryCodecs t).1
  | .sending rest => rest
  | .releasing | .closing | .done => []

/-- An agent whose worker has come to a stage. -/
def agentAt (t : ThreadId) (a : Agent δ κ γ) : WorkerStage → Agent δ κ γ
  | .asking => a
  | .sending _ | .releasing => (a.queryCodecs t).2
  | .closing | .done => released t (a.queryCodecs t).2

/-- The codecs of the agent are handed over in order.  Those that are in the queue when the reader
leaves are lost, and so are those that are not sent then. -/
structure Sound (t : ThreadId) (wanted : Option Nat) (a : Agent δ κ γ) (s : Handoff δ κ γ) :
    Prop where
  agent : s.agent = agentAt t a s.worker
  ordered : s.reader ≠ .left → s.seen ++ s.queue ++ unsent t s = (a.queryCodecs t).1
  begun : s.seen <+: (a.queryCodecs t).1
  enough : ∀ n, wanted = some n → s.seen.length ≤ n
  left : s.reader = .left → wanted = some s.seen.length
  ended : s.reader = .ended → s.worker = .done ∧ s.queue = []

lemma sound_start (t : ThreadId) (wanted : Option Nat) (a : Agent δ κ γ) :
    Sound t wanted a { agent := a } where
  agent := rfl
  ordered _ := rfl
  begun := ⟨_, rfl⟩
  enough n _ := Nat.zero_le n
  left h := nomatch h
  ended h := nomatch h

namespace Sound

/-- The worker comes to another stage without sending anything. -/
lemma goesOn (h : Sound t wanted a s) {agent : Agent δ κ γ} {worker : WorkerStage}
    (hagent : agent = agentAt t a worker)
    (hunsent : s.reader ≠ .left → unsent t { s with agent, worker } = unsent t s)
    (hdone : s.worker = .done → worker = .done) : Sound t wanted a { s with agent, worker } where
  agent := hagent
  ordered hreader := by
    rw [hunsent hreader]
    exact h.ordered hreader
  begun := h.begun
  enough := h.enough
  left := h.left
  ended hended := ⟨hdone (h.ended hended).1, (h.ended hended).2⟩

/-- A reader that cannot be sent to, while there is something to send, has left. -/
lemma reader_eq_left (h : Sound t wanted a s) (hworker : s.worker ≠ .done)
    (hreader : s.reader ≠ .reading) : s.reader = .left := by
  cases hs : s.reader with
  | reading => exact absurd hs hreader
  | left => rfl
  | ended => exact absurd (h.ended hs).1 hworker

lemma step (h : Sound t wanted a s) (hstep : Step capacity t wanted s s') :
    Sound t wanted a s' := by
  cases hstep with
  | asked hworker =>
    have hagent : s.agent = a := by rw [h.agent, hworker, agentAt]
    refine h.goesOn ?_ (fun _ => ?_) (by simp [hworker])
    · rw [hagent, agentAt]
    · simp only [unsent, hworker]
  | @sent c rest hworker hreader hroom =>
    refine ⟨?_, fun _ => ?_, h.begun, h.enough, h.left, fun hended => ?_⟩
    · rw [h.agent, hworker, agentAt, agentAt]
    · have hordered := h.ordered (by simp [hreader])
      rw [unsent, hworker] at hordered
      simpa [unsent] using hordered
    · exact absurd (hreader.symm.trans hended) (by simp)
  | refused hworker hreader =>
    have hleft : s.reader = .left := h.reader_eq_left (by simp [hworker]) hreader
    refine h.goesOn ?_ (fun hne => absurd hleft hne) (by simp [hworker])
    rw [h.agent, hworker, agentAt, agentAt]
  | finished hworker =>
    refine h.goesOn ?_ (fun _ => ?_) (by simp [hworker])
    · rw [h.agent, hworker, agentAt, agentAt]
    · simp only [unsent, hworker]
  | released hworker =>
    refine h.goesOn ?_ (fun _ => ?_) (by simp [hworker])
    · rw [h.agent, hworker, agentAt, agentAt]
    · simp only [unsent, hworker]
  | closed hworker =>
    refine h.goesOn ?_ (fun _ => ?_) (fun _ => rfl)
    · rw [h.agent, hworker, agentAt, agentAt]
    · simp only [unsent, hworker]
  | @received c queue hreader hwanted hqueue =>
    have hordered := h.ordered (by simp [hreader])
    rw [hqueue] at hordered
    refine ⟨h.agent, fun _ => ?_, ?_, fun n hn => ?_, fun hleft => ?_, fun hended => ?_⟩
    · simpa [unsent] using hordered
    · exact ⟨queue ++ unsent t s, by simpa using hordered⟩
    · have hne : s.seen.length ≠ n := fun heq => hwanted (heq ▸ hn)
      have hle := h.enough n hn
      rw [List.length_append, List.length_singleton]
      omega
    · exact absurd (hreader.symm.trans hleft) (by simp)
    · exact absurd (hreader.symm.trans hended) (by simp)
  | left hreader hwanted =>
    exact ⟨h.agent, fun hne => absurd rfl hne, h.begun, h.enough, fun _ => hwanted,
      fun hended => nomatch hended⟩
  | ended hreader hwanted hqueue hworker =>
    exact ⟨h.agent, fun _ => h.ordered (by simp [hreader]), h.begun, h.enough,
      fun hleft => absurd hleft (by simp), fun _ => ⟨hworker, hqueue⟩⟩

end Sound

lemma Run.sound {n : Nat} (h : Run capacity t wanted n { agent := a } s) :
    Sound t wanted a s := by
  generalize hstart : ({ agent := a } : Handoff δ κ γ) = start at h
  induction h with
  | nil s => exact hstart ▸ sound_start t wanted a
  | concat h hstep ih => exact (ih hstart).step hstep

/-! ### Runs come to an end -/

/-- The number of steps that are left to the worker, but for those that send. -/
def stagesLeft : WorkerStage → Nat
  | .asking => 4
  | .sending _ => 3
  | .releasing => 2
  | .closing => 1
  | .done => 0

/-- A bound on the number of steps that are left.  A codec may still be sent and read. -/
def togo (t : ThreadId) (s : Handoff δ κ γ) : Nat :=
  2 * (unsent t s).length + s.queue.length + stagesLeft s.worker
    + match s.reader with
      | .reading => 1
      | .left | .ended => 0

lemma Step.togo_lt (h : Step capacity t wanted s s') : togo t s' < togo t s := by
  cases h with
  | asked hworker => simp [togo, unsent, hworker, stagesLeft]
  | sent hworker hreader hroom =>
    simp only [togo, unsent, hworker, stagesLeft, List.length_append, List.length_cons,
      List.length_nil]
    omega
  | refused hworker hreader =>
    simp only [togo, unsent, hworker, stagesLeft, List.length_cons, List.length_nil]
    omega
  | finished hworker => simp [togo, unsent, hworker, stagesLeft]
  | released hworker => simp [togo, unsent, hworker, stagesLeft]
  | closed hworker => simp [togo, unsent, hworker, stagesLeft]
  | received hreader hwanted hqueue => simp [togo, unsent, hqueue]
  | left hreader hwanted => simp [togo, unsent, hreader]
  | ended hreader hwanted hqueue hworker => simp [togo, unsent, hreader]

lemma Run.length_le {n : Nat} (h : Run capacity t wanted n s s') : n + togo t s' ≤ togo t s := by
  induction h with
  | nil s => simp
  | concat h hstep ih =>
    have hlt := hstep.togo_lt
    omega

/-! ### Runs do not get stuck -/

/-- Unless it is final, something goes on: a worker that finds the queue full waits for a reader
that finds it not empty. -/
lemma progress (hcapacity : 0 < capacity) (t : ThreadId) (wanted : Option Nat)
    (s : Handoff δ κ γ) : s.Final ∨ ∃ s', Step capacity t wanted s s' := by
  -- a reader for which there is something, or nothing any more, goes on
  have hreads (hreader : s.reader = .reading) (hqueue : s.queue = [] → s.worker = .done) :
      ∃ s', Step capacity t wanted s s' := by
    by_cases hwanted : wanted = some s.seen.length
    · exact ⟨_, .left hreader hwanted⟩
    cases hs : s.queue with
    | nil => exact ⟨_, .ended hreader hwanted hs (hqueue hs)⟩
    | cons c queue => exact ⟨_, .received hreader hwanted hs⟩
  cases hworker : s.worker with
  | asking => exact .inr ⟨_, .asked hworker⟩
  | sending rest =>
    cases rest with
    | nil => exact .inr ⟨_, .finished hworker⟩
    | cons c rest =>
      by_cases hreader : s.reader = .reading
      · by_cases hroom : s.queue.length < capacity
        · exact .inr ⟨_, .sent hworker hreader hroom⟩
        · refine .inr (hreads hreader fun hqueue => ?_)
          rw [hqueue] at hroom
          exact absurd hcapacity hroom
      · exact .inr ⟨_, .refused hworker hreader⟩
  | releasing => exact .inr ⟨_, .released hworker⟩
  | closing => exact .inr ⟨_, .closed hworker⟩
  | done =>
    by_cases hreader : s.reader = .reading
    · exact .inr (hreads hreader fun _ => hworker)
    · exact .inl ⟨hworker, hreader⟩

/-- Every run can be completed. -/
lemma Run.exists_final (hcapacity : 0 < capacity) {n : Nat} {start : Handoff δ κ γ}
    (h : Run capacity t wanted n start s) :
    ∃ n' s', Run capacity t wanted n' start s' ∧ s'.Final := by
  induction hm : togo t s using Nat.strongRecOn generalizing n s with
  | ind m ih =>
    rcases progress hcapacity t wanted s with hfinal | ⟨s', hstep⟩
    · exact ⟨n, s, h, hfinal⟩
    · exact ih (togo t s') (hm ▸ hstep.togo_lt) (h.concat hstep) rfl

/-! ### What runs come to -/

/-- When all is done, the reader has seen the codecs that it is said to see, and the agent is as it
is said to be. -/
lemma Sound.outcome (h : Sound t wanted a s) (hfinal : s.Final) :
    (s.seen, s.agent) = a.listCodecs t wanted := by
  have hagent : s.agent = (a.listCodecs t wanted).2 := by
    rw [h.agent, hfinal.worker]
    rfl
  have hseen : s.seen = (a.listCodecs t wanted).1 := by
    cases hreader : s.reader with
    | reading => exact absurd hreader hfinal.reader
    | left =>
      obtain ⟨rest, hrest⟩ := h.begun
      simp only [Agent.listCodecs, h.left hreader, ← hrest, List.take_left]
    | ended =>
      have hall : s.seen = (a.queryCodecs t).1 := by
        have hordered := h.ordered (by simp [hreader])
        simpa [unsent, hfinal.worker, (h.ended hreader).2] using hordered
      cases hwanted : wanted with
      | none => simp only [Agent.listCodecs, hall]
      | some n =>
        simp only [Agent.listCodecs, ← hall]
        exact (List.take_of_length_le (h.enough n hwanted)).symm
  rw [hseen, hagent]

end Handoff

/-! ### What an agent hands over -/

namespace Agent

variable {a : Agent δ κ γ} {t : ThreadId}

/-- The engine is asked for its codecs, and tells them. -/
structure TellsCodecs (a : Agent δ κ γ) : Prop where
  opened : a.closing = false
  stage : a.engine.state = .init ∨ a.engine.state = .running
  answers : a.engine.failure? (.command .enumerateCodecs) = none

@[simp] lemma codecs_ensureThread (t : ThreadId) (a : Agent δ κ γ) :
    (a.ensureThread t).engine.codecs = a.engine.codecs := by
  obtain ⟨threads, h⟩ := a.engine_ensureThread t
  rw [h]

lemma queryCodecs_of_tells (h : a.TellsCodecs) (t : ThreadId) :
    (a.queryCodecs t).1 = a.engine.codecs.take codecCapacity := by
  have hserves : a.engine.state.serves = true := by
    rcases h.stage with hstate | hstate <;> rw [hstate] <;> rfl
  have hanswer : (Engine.listCodecs codecCapacity (a.ensureThread t).engine).1
      = .ok (a.engine.codecs.take codecCapacity) := by
    simp [Engine.listCodecs, Engine.receive, Engine.atStage, h.answers, hserves]
  simp [queryCodecs, h.opened, issue_of_ok hanswer, Except.toOption]

lemma queryCodecs_of_refused {status : EngineStatus}
    (h : (Engine.listCodecs codecCapacity (a.ensureThread t).engine).1 = .error status) :
    (a.queryCodecs t).1 = [] := by
  cases hclosing : a.closing <;>
    simp [queryCodecs, hclosing, issue_of_refused h, Except.toOption]

lemma queryCodecs_of_not_tells (hsound : a.engine.Sound) (h : ¬ a.TellsCodecs) (t : ThreadId) :
    (a.queryCodecs t).1 = [] := by
  cases hclosing : a.closing with
  | true => simp [queryCodecs, hclosing]
  | false =>
    cases hfailure : a.engine.failure? (.command .enumerateCodecs) with
    | some status =>
      have hrefused : (Engine.listCodecs codecCapacity (a.ensureThread t).engine).1
          = .error status := by
        simp [Engine.listCodecs, Engine.receive, hfailure]
      exact queryCodecs_of_refused hrefused
    | none =>
      have hserves : a.engine.state.serves = false := by
        rw [← Bool.not_eq_true]
        exact fun hserves => h ⟨hclosing, hsound.state_of_serves hserves, hfailure⟩
      have hrefused : (Engine.listCodecs codecCapacity (a.ensureThread t).engine).1
          = .error .invalidOperation := by
        simp [Engine.listCodecs, Engine.receive, Engine.atStage, hfailure, hserves]
      exact queryCodecs_of_refused hrefused

/-- There are never more codecs than are asked for. -/
lemma length_queryCodecs_le (hsound : a.engine.Sound) (t : ThreadId) :
    (a.queryCodecs t).1.length ≤ codecCapacity := by
  by_cases h : a.TellsCodecs
  · rw [queryCodecs_of_tells h]
    exact List.length_take_le _ _
  · rw [queryCodecs_of_not_tells hsound h]
    exact Nat.zero_le _

lemma log_listCodecs (t : ThreadId) (wanted : Option Nat) (a : Agent δ κ γ) :
    (a.listCodecs t wanted).2.engine.log
      = a.engine.log ++ if a.closing then [] else [.enumerateCodecs] := by
  have hlog : (a.listCodecs t wanted).2.engine.log = _ := log_perform t a (.listCodecs t wanted)
  rw [hlog]
  cases hclosing : a.closing <;> simp [passes, hclosing, Request.op?, EngineOp.command?]

lemma gate_listCodecs (h : a.gate.isRegistered t = false) (wanted : Option Nat) :
    (a.listCodecs t wanted).2.gate = a.gate := by
  unfold listCodecs queryCodecs
  cases a.closing with
  | true => exact ThreadGate.release_eq_self h
  | false => exact ThreadGate.release_ensure h a.engine

/-- The engine is sound, and this is its table of codecs. -/
structure Offers (codecs : List CodecDescriptor) (_before : History δ κ γ) (a : Agent δ κ γ) :
    Prop where
  sound : a.engine.Sound
  table : a.engine.codecs = codecs

lemma kept_offers {kind : EngineOp → Prop} (codecs : List CodecDescriptor) :
    Kept (.byOps kind) (Offers (δ := δ) (κ := κ) (γ := γ) codecs) where
  act := by
    intro before a a' x h hdoes
    obtain ⟨ops, hops, -⟩ := hdoes.engine
    constructor
    · exact hops ▸ h.sound.run ops
    · rw [hops, Engine.codecs_run, h.table]
  dispatched callee data returns h := ⟨h.sound, h.table⟩
  counted f h := ⟨h.sound, h.table⟩

end Agent

namespace World

/-- The codecs of an agent are handed to a reader in order, and never more than are asked for.

The agent is any that a world comes to, also in the midst of a notification, and the worker a thread
that is not registered with it.  However worker and reader take turns and whatever the capacity of
the queue, as long as it is not zero:

* all comes to an end, after a bounded number of steps and never before worker and reader are done;
* a reader that sees the end finds the thread released;
* in the end the reader has seen the head of the table that the engine was made with, as much of it
  as it wanted, if the agent is not closing, the engine is initialised or runs, and the query is not
  told to fail; and otherwise it has seen nothing;
* the query is recorded once, unless the agent is closing, and then not at all;
* the threads that are registered are those that were registered before.

What is seen does not depend on the capacity. -/
theorem codecs_are_handed_over (o : Observers γ σ) (limit : Nat) {w : World δ κ γ σ}
    {codecs : List CodecDescriptor}
    (hengine : ∃ ops, w.agent.engine = (Engine.run ops { codecs }).2)
    {ops : List (AgentOp γ)} (hops : ∀ op ∈ ops, op.Within (.byOps fun _ => True))
    {a : Agent δ κ γ}
    (ha : a = (w.run o limit ops).agent ∨ ∃ x, (a, x) ∈ w.history o limit ops)
    {t : ThreadId} (hworker : a.gate.isRegistered t = false) (wanted : Option Nat) :
    (∀ capacity, 0 < capacity →
      (∃ n s, Handoff.Run capacity t wanted n { agent := a } s ∧ s.Final)
      ∧ ∀ n s, Handoff.Run capacity t wanted n { agent := a } s →
        n ≤ 2 * codecCapacity + 5
        ∧ (s.Final ∨ ∃ s', Handoff.Step capacity t wanted s s')
        ∧ (s.reader = .ended → s.agent.gate = a.gate)
        ∧ (s.Final →
          (a.TellsCodecs →
            s.seen = wanted.elim (codecs.take codecCapacity) (codecs.take codecCapacity).take)
          ∧ (¬ a.TellsCodecs → s.seen = [])
          ∧ s.agent.engine.log = a.engine.log ++ (if a.closing then [] else [.enumerateCodecs])
          ∧ s.agent.gate = a.gate
          ∧ (s.seen, s.agent) = a.listCodecs t wanted))
    ∧ ∀ capacity capacity' n n' s s', Handoff.Run capacity t wanted n { agent := a } s →
        Handoff.Run capacity' t wanted n' { agent := a } s' → s.Final → s'.Final →
          s.seen = s'.seen := by
  have hcourse := course_run (fun id status expires => ⟨_, trivial, rfl⟩) o limit w hops
  have hstart : Agent.Offers codecs [] w.agent := by
    obtain ⟨before, h⟩ := hengine
    constructor
    · exact Engine.sound_of_run ⟨codecs, before, h⟩
    · rw [h, Engine.codecs_run]
  obtain ⟨halong, hend⟩ := hcourse.along (Agent.kept_offers codecs) hstart
  obtain ⟨-, hsound, hcodecs⟩ : ∃ before, Agent.Offers codecs before a := by
    rcases ha with rfl | ⟨x, hx⟩
    · exact ⟨_, hend⟩
    · obtain ⟨before, after, hsplit⟩ := List.append_of_mem hx
      have halong' : Agent.Along (Agent.Offers codecs) [] (before ++ (a, x) :: after) :=
        hsplit ▸ halong
      exact ⟨_, halong'.at_split⟩
  have hseen (s : Handoff δ κ γ) (hs : (s.seen, s.agent) = a.listCodecs t wanted) :
      s.seen = wanted.elim (a.queryCodecs t).1 (a.queryCodecs t).1.take := by
    have hlist := congrArg Prod.fst hs
    cases wanted <;> exact hlist
  refine ⟨fun capacity hcapacity => ⟨(Handoff.Run.nil _).exists_final hcapacity,
    fun n s hrun => ⟨?_, Handoff.progress hcapacity t wanted s, fun hended => ?_,
      fun hfinal => ?_⟩⟩, fun capacity capacity' n n' s s' hrun hrun' hfinal hfinal' => ?_⟩
  · have hlength := hrun.length_le
    have hcount := Agent.length_queryCodecs_le hsound t
    simp only [Handoff.togo, Handoff.unsent, Handoff.stagesLeft, List.length_nil] at hlength
    omega
  · rw [hrun.sound.agent, (hrun.sound.ended hended).1]
    exact Agent.gate_listCodecs hworker wanted
  · have houtcome := hrun.sound.outcome hfinal
    have hagent : s.agent = (a.listCodecs t wanted).2 := congrArg Prod.snd houtcome
    refine ⟨fun htells => ?_, fun htells => ?_, ?_, ?_, houtcome⟩
    · rw [hseen s houtcome, Agent.queryCodecs_of_tells htells, hcodecs]
    · rw [hseen s houtcome, Agent.queryCodecs_of_not_tells hsound htells]
      cases wanted <;> simp
    · rw [hagent, Agent.log_listCodecs]
    · rw [hagent, Agent.gate_listCodecs hworker]
  · rw [hseen s (hrun.sound.outcome hfinal), hseen s' (hrun'.sound.outcome hfinal')]

/-- A table with more codecs than are asked for, and than there is room for in the queue. -/
def longTable : List CodecDescriptor := (List.range 200).map fun n => ⟨toString n, "", 1⟩

/-- An engine with this table. -/
def longTableWorld : World Unit Unit Unit Unit :=
  { bare with agent := { bare.agent with engine := { codecs := longTable } } }

theorem codecs_are_handed_over_long :
    let a := (longTableWorld.run {} 1 [.ask 1 .create, .ask 1 (.init {})]).agent
    a.TellsCodecs ∧ a.gate.registered = [1]
    ∧ (∃ n s, Handoff.Run 8 2 none n { agent := a } s ∧ s.Final
      ∧ s.seen = longTable.take 128 ∧ s.seen.length = 128
      ∧ s.agent.engine.log = [.create, .init, .enumerateCodecs] ∧ s.agent.gate.registered = [1])
    ∧ ∃ n s, Handoff.Run 8 2 (some 3) n { agent := a } s ∧ s.Final
      ∧ s.seen = longTable.take 3 ∧ s.agent.gate.registered = [1] := by
  intro a
  have hengine : ∃ ops, longTableWorld.agent.engine = (Engine.run ops { codecs := longTable }).2 :=
    ⟨[], rfl⟩
  have hops : ∀ op ∈ ([.ask 1 .create, .ask 1 (.init {})] : List (AgentOp Unit)),
      op.Within (.byOps fun _ => True) := by
    simp only [List.forall_mem_cons]
    exact ⟨trivial, trivial, fun op hop => absurd hop (by simp)⟩
  have htells : a.TellsCodecs := ⟨rfl, .inl rfl, rfl⟩
  have hgate : a.gate.registered = [1] := rfl
  obtain ⟨hall, -⟩ := codecs_are_handed_over {} 1 hengine hops (.inl rfl)
    (show a.gate.isRegistered 2 = false from rfl) none
  obtain ⟨hthree, -⟩ := codecs_are_handed_over {} 1 hengine hops (.inl rfl)
    (show a.gate.isRegistered 2 = false from rfl) (some 3)
  refine ⟨htells, hgate, ?_, ?_⟩
  · obtain ⟨⟨n, s, hrun, hfinal⟩, hruns⟩ := hall 8 (by decide)
    obtain ⟨-, -, -, hdone⟩ := hruns n s hrun
    obtain ⟨hseen, -, hlog, hsame, -⟩ := hdone hfinal
    have hhead : s.seen = longTable.take 128 := hseen htells
    refine ⟨n, s, hrun, hfinal, hhead, ?_, hlog, ?_⟩
    · rw [hhead, List.length_take, longTable, List.length_map, List.length_range]
      rfl
    · rw [hsame, hgate]
  · obtain ⟨⟨n, s, hrun, hfinal⟩, hruns⟩ := hthree 8 (by decide)
    obtain ⟨-, -, -, hdone⟩ := hruns n s hrun
    obtain ⟨hseen, -, -, hsame, -⟩ := hdone hfinal
    refine ⟨n, s, hrun, hfinal, ?_, ?_⟩
    · rw [hseen htells]
      exact List.take_take
    · rw [hsame, hgate]

end World
end SipStills
