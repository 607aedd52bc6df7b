/-
# The telephony engine: vocabulary

Identifiers, the life cycle, status numbers, commands and SIP addresses.
-/
import SipStills.Text.Blank

namespace SipStills

/-- The number under which the engine knows an account. -/
abbrev AccountId := Int

/-- The stages of an engine's life, in the order in which they are passed. -/
inductive EngineState where
  | null
  | created
  | init
  | starting
  | running
  | closing
deriving DecidableEq

namespace EngineState

/-- All stages, in order. -/
def all : List EngineState := [.null, .created, .init, .starting, .running, .closing]

/-- The place of a stage in the life cycle. -/
def rank : EngineState → Nat
  | .null => 0
  | .created => 1
  | .init => 2
  | .starting => 3
  | .running => 4
  | .closing => 5

/-- The stage's name. -/
def name : EngineState → String
  | .null => "NULL"
  | .created => "CREATED"
  | .init => "INIT"
  | .starting => "STARTING"
  | .running => "RUNNING"
  | .closing => "CLOSING"

/-- Stages compare by their place in the life cycle. -/
instance : Ord EngineState := ⟨fun a b => compare a.rank b.rank⟩

/-- Accounts, transports and codec queries are served from initialisation until closing. -/
def serves (s : EngineState) : Bool :=
  decide (EngineState.init.rank ≤ s.rank) && decide (s.rank < EngineState.closing.rank)

end EngineState

/-- The status number of a rejected command. -/
abbrev EngineStatus := Int

namespace EngineStatus

/-- An argument names nothing that the engine holds. -/
def invalidArgument : EngineStatus := 70004

/-- What was asked for is not there. -/
def notFound : EngineStatus := 70006

/-- A table has no more room. -/
def tooMany : EngineStatus := 70010

/-- The command is not allowed at this stage. -/
def invalidOperation : EngineStatus := 70013

/-- An address is not a SIP address. -/
def invalidUri : EngineStatus := 171039

end EngineStatus

/-- The commands that an engine takes; each one received is recorded. -/
inductive EngineCommand where
  | create
  | init
  | start
  | destroy
  | nullSound
  | transportCreate
  | accountAdd
  | accountSetDefault
  | accountDelete
  | accountInfo
  | enumerateCodecs
  | makePlay
deriving DecidableEq

namespace EngineCommand

/-- The name under which a command is recorded. -/
def name : EngineCommand → String
  | .create => "create"
  | .init => "init"
  | .start => "start"
  | .destroy => "destroy"
  | .nullSound => "set_null_snd_dev"
  | .transportCreate => "transport_create"
  | .accountAdd => "acc_add"
  | .accountSetDefault => "acc_set_default"
  | .accountDelete => "acc_del"
  | .accountInfo => "acc_get_info"
  | .enumerateCodecs => "enum_codecs"
  | .makePlay => "call_make_play"

/-- All commands. -/
def all : List EngineCommand :=
  [.create, .init, .start, .destroy, .nullSound, .transportCreate, .accountAdd,
    .accountSetDefault, .accountDelete, .accountInfo, .enumerateCodecs, .makePlay]

/-- The command of the given name. -/
def ofName? (name : String) : Option EngineCommand := all.find? fun c => c.name == name

end EngineCommand

/-- A codec as the engine lists it. -/
structure CodecDescriptor where
  /-- Its identifier, as in `PCMU/8000/1`. -/
  id : String
  /-- A description, which may be empty. -/
  description : String
  /-- The larger number is preferred. -/
  priority : UInt8
deriving DecidableEq

/-- The descriptor as one line of text; an empty description is left out. -/
def CodecDescriptor.render (c : CodecDescriptor) : String :=
  c.id ++ (if c.description = "" then "" else " (" ++ c.description ++ ")")
    ++ " priority: " ++ toString c.priority.toNat

/-- What follows the scheme of a SIP address. -/
def sipRest? (uri : List Char) : Option (List Char) :=
  match uri with
  | 's' :: 'i' :: 'p' :: ':' :: rest => some rest
  | 's' :: 'i' :: 'p' :: 's' :: ':' :: rest => some rest
  | _ => none

/-- Whether a text is a SIP address: the scheme `sip:` or `sips:`, and then at least one
character and no white space. -/
def isSipUri (uri : String) : Bool :=
  match sipRest? uri.toList with
  | none => false
  | some rest => !rest.isEmpty && !rest.any Text.isBlank

end SipStills
