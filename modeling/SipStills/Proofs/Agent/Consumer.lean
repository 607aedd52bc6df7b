/-
# The consumer of an agent is fixed once

What the acts of a run have done with the dispatch is a run of the dispatch alone
(`Agent.Course.dispatchRun`): attempts to set the consumer, engines started, and stills dispatched,
whoever did it and however deeply notifications were nested.  So everything that is known of the
dispatch is so of the agent (`World.consumer_fixed_once`).

A start that fails does not fix the consumer, and a still is counted when its consumer has come to
an end, so that one from which the consumer breaks off is counted nowhere
(`World.broken_off_not_counted`).
-/
import SipStills.Proofs.Agent.Reach
import SipStills.Proofs.Agent.Refusals
import SipStills.Proofs.Agent.Teardown
import SipStills.Proofs.Dispatch
import SipStills.Proofs.Pipeline.Steps

namespace SipStills

variable {δ κ γ σ : Type}

namespace Agent

/-- What an act does with the dispatch. -/
def dispatchOps : Agent δ κ γ × Act γ → List (DispatchOp γ)
  | (_, .perform _ (.setConsumer consumer)) => [.set consumer]
  | (a, .perform t .start) =>
    match (a.start t).1 with
    | .error _ => []
    | .ok () => [.activate]
  | (_, .dispatch callee data returns) => [.dispatch callee data returns]
  | _ => []

/-- Why an attempt to set the consumer was refused, if it was. -/
def setAnswers : Agent δ κ γ × Act γ → List (Option Fault)
  | (a, .perform _ (.setConsumer consumer)) => [refusal? (a.setConsumer consumer).1]
  | _ => []

/-- What the consumer is given. -/
def handed : Agent δ κ γ × Act γ → List (Delivery γ)
  | (a, .dispatch callee data _) =>
    (a.pipeline.dispatch.consumer.map fun consumer => ⟨consumer, callee, data⟩).toList
  | _ => []

/-- What has come of acts that led to an agent. -/
def dispatchRun (acts : History δ κ γ) (a : Agent δ κ γ) : DispatchRun γ :=
  ⟨acts.flatMap setAnswers, acts.flatMap handed, a.pipeline.dispatch⟩

/-- The consumer is fixed by a start that succeeds, and not by one that fails. -/
lemma dispatch_start (t : ThreadId) (a : Agent δ κ γ) :
    (a.start t).2.pipeline.dispatch =
      match (a.start t).1 with
      | .error _ => a.pipeline.dispatch
      | .ok () => a.pipeline.dispatch.activate := by
  obtain ⟨gate, engine, hbooks⟩ := sameBooks_command "start" t Engine.start a
  unfold start
  rcases hcommand : a.command "start" t Engine.start with ⟨_ | _, b⟩ <;>
  · rw [hcommand] at hbooks
    obtain rfl : b = _ := hbooks
    rfl

lemma setConsumer_of_error {a : Agent δ κ γ} {consumer : γ} {fault : Fault}
    (h : a.pipeline.dispatch.set consumer = .error fault) :
    a.setConsumer consumer = (.error fault, a) := by
  simp [setConsumer, h]

lemma setConsumer_of_ok {a : Agent δ κ γ} {consumer : γ} {dispatch : Dispatch γ}
    (h : a.pipeline.dispatch.set consumer = .ok dispatch) :
    a.setConsumer consumer = (.ok (), { a with pipeline := { a.pipeline with dispatch } }) := by
  simp [setConsumer, h]

lemma dispatchRun_perform (t : ThreadId) (r : Request γ) (a : Agent δ κ γ) :
    Dispatch.run (dispatchOps (a, .perform t r)) a.pipeline.dispatch
      = dispatchRun [(a, .perform t r)] (a.perform t r).2 := by
  have hspared (hr : r.SparesPipeline) :
      (⟨[], [], a.pipeline.dispatch⟩ : DispatchRun γ)
        = ⟨[], [], (a.perform t r).2.pipeline.dispatch⟩ := by
    rw [pipeline_perform t a hr]
  cases r with
  | start =>
    have hdispatch := dispatch_start t a
    cases hanswer : (a.start t).1 with
    | error fault =>
      rw [hanswer] at hdispatch
      simp [dispatchOps, hanswer, Dispatch.run, dispatchRun, setAnswers, handed, perform, hdispatch]
    | ok x =>
      rw [hanswer] at hdispatch
      simp [dispatchOps, hanswer, Dispatch.run, Dispatch.apply, dispatchRun, setAnswers, handed,
        perform, hdispatch]
  | setConsumer consumer =>
    cases hset : a.pipeline.dispatch.set consumer with
    | error fault =>
      simp [dispatchOps, Dispatch.run, Dispatch.apply, hset, dispatchRun, setAnswers, handed,
        perform, setConsumer_of_error hset, refusal?]
    | ok dispatch =>
      simp [dispatchOps, Dispatch.run, Dispatch.apply, hset, dispatchRun, setAnswers, handed,
        perform, setConsumer_of_ok hset, refusal?]
  | endSession callee => rfl
  | destroy =>
    have hdispatch : (a.destroy t).2.pipeline.dispatch = a.pipeline.dispatch := by
      unfold destroy
      split <;> rfl
    simp [dispatchOps, Dispatch.run, dispatchRun, setAnswers, handed, perform, hdispatch]
  | _ => exact hspared trivial

lemma dispatchRun_of_does {allowed : Changes} {a a' : Agent δ κ γ} {x : Act γ}
    (h : Does allowed a x a') :
    Dispatch.run (dispatchOps (a, x)) a.pipeline.dispatch = dispatchRun [(a, x)] a' := by
  cases h with
  | performed t r a => exact dispatchRun_perform t r a
  | entered henter =>
    rw [eq_of_enter? henter]
    rfl
  | prepared e a =>
    simp [dispatchOps, Dispatch.run, dispatchRun, setAnswers, handed, Pipeline.dispatch_prepare]
  | registered t a | changed hchange a | dropped a => rfl

/-- What acts have done with the dispatch is a run of the dispatch alone. -/
lemma Course.dispatchRun {allowed : Changes} {a a' : Agent δ κ γ} {acts : History δ κ γ}
    (h : Course allowed a acts a') :
    Dispatch.run (acts.flatMap dispatchOps) a.pipeline.dispatch = dispatchRun acts a' := by
  induction h with
  | nil a => rfl
  | act h =>
    have hdone := dispatchRun_of_does h
    simpa using hdone
  | dropped callee data h =>
    simp [dispatchOps, Dispatch.run, Dispatch.apply, Dispatch.handOver, Dispatch.offer, h,
      Agent.dispatchRun, setAnswers, handed, mapDispatch]
  | @taken a a' acts consumer callee data h hacts ih =>
    have hgiven : a.pipeline.dispatch.apply (.dispatch callee data true)
        = ⟨[], [⟨consumer, callee, data⟩], a.pipeline.dispatch.countDelivered⟩ := by
      simp [Dispatch.apply, Dispatch.handOver, Dispatch.offer, h]
    -- the still is counted after what the consumer has done, which makes no difference to that
    simp only [List.flatMap_cons, dispatchOps, List.singleton_append, Dispatch.run, hgiven,
      Dispatch.run_countDelivered, ih]
    simp [Agent.dispatchRun, setAnswers, handed, h, mapDispatch]
  | @brokenOff a a' acts consumer callee data h hacts ih =>
    have hgiven : a.pipeline.dispatch.apply (.dispatch callee data false)
        = ⟨[], [⟨consumer, callee, data⟩], a.pipeline.dispatch⟩ := by
      simp [Dispatch.apply, Dispatch.handOver, h]
    simp only [List.flatMap_cons, dispatchOps, List.singleton_append, Dispatch.run, hgiven, ih]
    simp [Agent.dispatchRun, setAnswers, handed, h]
  | append h h' ih ih' =>
    rw [List.flatMap_append, Dispatch.run_append, ih]
    simp only [Agent.dispatchRun] at ih' ⊢
    simp [ih']

end Agent

namespace World

/-- The consumer is fixed once, that of a dispatch and that of an agent: at most one attempt to set
it succeeds, and none after an engine was started; the attempts that are refused change nothing.
What is dispatched afterwards goes to that consumer, in order, and is counted as delivered when the
consumer has come to an end; everything else is dropped and counted as discarded. -/
theorem consumer_fixed_once (o : Observers γ σ) (limit : Nat) {w : World δ κ γ σ}
    (h : w.agent.pipeline.dispatch = {}) (ops : List (AgentOp γ)) :
    let acts := w.history o limit ops
    (∀ uses : List (DispatchOp γ), Dispatch.FixedOnce uses (Dispatch.run uses {}))
    ∧ Dispatch.FixedOnce (acts.flatMap Agent.dispatchOps)
        (Agent.dispatchRun acts (w.run o limit ops).agent)
    ∧ (∀ (d : Dispatch γ) (c : γ) (fault : Fault), d.set c = .error fault →
        (d.apply (.set c)).dispatch = d)
    ∧ ∀ (a : Agent δ κ γ) (t : ThreadId) (c : γ) (fault : Fault),
        (a.setConsumer c).1 = .error fault → (a.perform t (.setConsumer c)).2 = a := by
  intro acts
  have hcourse : Agent.Course (fun _ => True) w.agent acts (w.run o limit ops).agent :=
    course_run (fun _ _ _ => trivial) o limit w fun op _ => by cases op <;> trivial
  refine ⟨Dispatch.fixedOnce_run, ?_, fun d c fault hset => ?_, fun a t c fault hset => ?_⟩
  · have hrun := hcourse.dispatchRun
    rw [h] at hrun
    rw [← hrun]
    exact Dispatch.fixedOnce_run (acts.flatMap Agent.dispatchOps)
  · simp only [Dispatch.apply, hset]
  · cases hdispatch : a.pipeline.dispatch.set c with
    | error fault' => simp [Agent.perform, Agent.setConsumer_of_error hdispatch]
    | ok dispatch =>
      rw [Agent.setConsumer_of_ok hdispatch] at hset
      exact absurd hset (by simp)

/-- An agent whose engine can be started, and which makes two stills of every packet. -/
def unattended : World SyntheticDevices Bool String Unit where
  agent :=
    { engine := { state := .init }
      pipeline :=
        { registry :=
            { decoders := [syntheticDecoder (.plain false) .h264 0]
              encoder := some twinEncoder }
          devices := [{}] } }
  notes := ()

/-- Stills are dropped, one consumer is set, others are refused before and after the start, and
stills are delivered. -/
def rivals : List (AgentOp String) :=
  let packet : AgentOp String := .notify 1 (.decode ⟨"cam-1", .h264, 0, 1, 0, [5]⟩)
  [packet, .ask 1 (.setConsumer "first"), .ask 1 (.setConsumer "second"), .ask 1 .start,
    .ask 1 (.setConsumer "third"), packet]

theorem consumer_fixed_once_rivals :
    let acts := unattended.history {} 1 rivals
    let a := (unattended.run {} 1 rivals).agent
    unattended.agent.pipeline.dispatch = {}
    ∧ acts.flatMap Agent.setAnswers = [none, some .consumerAlreadySet, some .pipelineActive]
    ∧ acts.flatMap Agent.handed = [⟨"first", "cam-1", [1]⟩, ⟨"first", "cam-1", [2]⟩]
    ∧ a.pipeline.dispatch = ⟨some "first", true, 2, 2⟩
    ∧ Dispatch.FixedOnce (acts.flatMap Agent.dispatchOps) (Agent.dispatchRun acts a) :=
  ⟨rfl, rfl, rfl, rfl, (consumer_fixed_once {} 1 rfl rivals).2.1⟩

/-- Observers whose consumer breaks off. -/
def breakingOff : Observers String Unit where
  consume _ _ _ := .abort

/-- A still from which the consumer breaks off was dispatched after the consumer was set, and is
not counted. -/
theorem broken_off_not_counted :
    let ops : List (AgentOp String) :=
      [.ask 1 (.setConsumer "first"), .notify 1 (.decode ⟨"cam-1", .h264, 0, 1, 0, [5]⟩)]
    let late : List (DispatchOp String) := [.dispatch "cam-1" [1] false]
    (unattended.history breakingOff 1 ops).flatMap Agent.dispatchOps = .set "first" :: late
    ∧ (unattended.run breakingOff 1 ops).agent.pipeline.dispatch.delivered
      ≠ late.countP DispatchOp.isDispatch :=
  ⟨rfl, by decide⟩

end World
end SipStills
