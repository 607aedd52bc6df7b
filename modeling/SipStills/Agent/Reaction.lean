/-
# Reactions of observers

An observer is told about registrations, or consumes stills.  What it does then is a
`Reaction`: it may look at its notes and change them, ask the agent for something, make the
engine raise a notification, and go on with what it learned; it may also break off.  A
reaction is data, so that whoever carries it out decides how far breaking off reaches.
-/
import SipStills.Agent.Request

namespace SipStills

/-- What makes the engine raise a notification. -/
inductive Stimulus where
  /-- An attempt to register an account starts. -/
  | started (id : AccountId) (renew : Bool)
  /-- The registrar of an account has answered. -/
  | answered (id : AccountId) (status : StatusCode) (expires : UInt32)
  /-- A packet of video has arrived. -/
  | decode (event : DecodeEvent)
deriving DecidableEq

/-- What an observer with notes `σ` does, at an agent with consumers `γ`. -/
inductive Reaction (γ σ : Type) where
  /-- Nothing more. -/
  | done
  /-- Breaks off. -/
  | abort
  /-- Changes its notes. -/
  | note (change : σ → σ) (next : Reaction γ σ)
  /-- Looks at its notes. -/
  | look (next : σ → Reaction γ σ)
  /-- Asks the agent. -/
  | ask (request : Request γ) (next : request.Answer → Reaction γ σ)
  /-- Makes the engine raise a notification, and learns whether it was one of its accounts. -/
  | raise (stimulus : Stimulus) (next : Bool → Reaction γ σ)

/-- One reaction after another; after one that breaks off there is no other. -/
def Reaction.andThen {γ σ : Type} (r : Reaction γ σ) (s : Reaction γ σ) : Reaction γ σ :=
  match r with
  | .done => s
  | .abort => .abort
  | .note change next => .note change (next.andThen s)
  | .look next => .look fun notes => (next notes).andThen s
  | .ask request next => .ask request fun answer => (next answer).andThen s
  | .raise stimulus next => .raise stimulus fun known => (next known).andThen s

/-- The observers of an agent. -/
structure Observers (γ σ : Type) where
  /-- What is done when an attempt to register starts, if anyone is to be told. -/
  started : Option (AccountId → Bool → Reaction γ σ) := none
  /-- What is done when a registrar has answered, if anyone is to be told. -/
  answered : Option (AccountId → AccountInfo → Reaction γ σ) := none
  /-- What a consumer does with a still of a session. -/
  consume : γ → String → Bytes → Reaction γ σ := fun _ _ _ => .done

/-- The reaction to a report about an account. -/
def Observers.onReport {γ σ : Type} (o : Observers γ σ) (id : AccountId) :
    RegReport → Reaction γ σ
  | .started renew =>
    match o.started with
    | none => .done
    | some f => f id renew
  | .info snapshot =>
    match o.answered with
    | none => .done
    | some f => f id snapshot

end SipStills
