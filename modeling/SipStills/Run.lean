/-
# A run of the program

A run sets an agent up as its settings say, registers the account, replays the recording and
tears everything down.  The engine answers registrations itself.  Stills go into a folder,
and the targets are called as soon as the account is registered.

Commands that the agent refuses end the run, those of the last part apart: an account that
cannot be deleted does not keep the agent from its teardown.

Main definition: `Run.perform`.
-/
import SipStills.Agent.World
import SipStills.Pipeline.Synthetic
import SipStills.Replay
import SipStills.Service
import SipStills.Sink.Folder

namespace SipStills.Run

/-- What the observers of a run remember. -/
structure Notes where
  /-- Where the stills go. -/
  sink : FolderSink := { folder := some {} }
  /-- The targets have been called. -/
  played : Bool := false

/-- The observers of a run. -/
def observers (targets : List String) : Observers Unit Notes where
  answered := some (Service.onAnswer targets Notes.played fun n => { n with played := true })
  consume _ callee data := .note (fun n => { n with sink := n.sink.consume callee data }) .done

/-- How deep notifications may nest: the observers of a run raise none. -/
def nesting : Nat := 1

variable {δ κ α : Type}

/-- A part of a run, which a refusal ends. -/
abbrev Part (δ κ : Type) := ExceptT Fault (StateM (World δ κ Unit Notes))

/-- A request that must not be refused. -/
def need (request : World δ κ Unit Notes → Except Fault α × World δ κ Unit Notes) :
    Part δ κ α :=
  ExceptT.mk request

/-- A request whose answer does not matter. -/
def attempt (request : World δ κ Unit Notes → α × World δ κ Unit Notes) : Part δ κ Unit :=
  modify fun w => (request w).2

/-- The thread of the run itself; it is the first of four. -/
def mainThread : ThreadId := 0

/-- The thread that lists the codecs. -/
def codecThread : ThreadId := 1

/-- The thread from which the engine answers the registration. -/
def registrationThread : ThreadId := 2

/-- The thread that replays the recording. -/
def mediaThread : ThreadId := 3

/-- The registry of a program without video decoders. -/
def plainRegistry (s : Settings) : Registry SyntheticDevices Bool where
  encoder := some (uncompressedEncoder s.pipeline.quality)

/-- The world in which a run begins. -/
def initial (s : Settings) (registry : Registry δ κ) (devices : δ) : World δ κ Unit Notes where
  agent :=
    { engine := { answersItself := true }
      pipeline := { registry, mode := s.pipeline.mode, devices } }
  notes := {}

/-- Brings the engine up and lists its codecs. -/
def setUp (s : Settings) : Part δ κ Unit := do
  need (World.perform mainThread (.setConsumer ()))
  need (World.perform mainThread .create)
  need (World.perform mainThread (.init s.endpoint))
  need (World.perform mainThread .nullSound)
  let _ : Nat ← need
    (World.perform mainThread (.createTransport s.transport.kind (some s.transport)))
  need (World.perform mainThread .start)
  attempt (World.perform mainThread (.listCodecs codecThread none))

/-- Creates the account, if there is one, and lets the engine answer its registration. -/
def register (s : Settings) : Part δ κ (Option AccountId) := do
  match s.account with
  | none => return none
  | some account =>
    let id : AccountId ← need (World.perform mainThread (.createAccount account true))
    modify (World.answerAll (observers s.targets) nesting registrationThread)
    return some id

/-- Replays the recording, if there is one, and ends its session. -/
def replay (s : Settings) (recording : Option Bytes) : Part δ κ Unit := do
  match s.replay with
  | none => return
  | some settings =>
    let events := (Replay.run settings recording none).toOption.getD []
    modify fun w => events.foldl
      (fun w e => w.notify (observers s.targets) nesting mediaThread (.decode e)) w
    attempt (World.perform mainThread (.endSession settings.callee))

/-- A whole run; `recording` are the bytes to replay, if they are there. -/
def perform (s : Settings) (recording : Option Bytes) : Part δ κ Unit := do
  setUp s
  let account ← register s
  replay s recording
  match account with
  | none => pure ()
  | some id => attempt (World.perform mainThread (.shutdown id))
  need (World.perform mainThread .destroy)

/-- The files that a run has made: their names and what is in them. -/
def files (w : World δ κ Unit Notes) : List (String × Bytes) :=
  (w.notes.sink.folder.getD {}).listing.filterMap fun x =>
    match x.2 with
    | .file data => some (x.1, data)
    | .folder => none

end SipStills.Run
