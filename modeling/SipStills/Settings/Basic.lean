/-
# Settings

The values that configure the program: logging, the endpoint, its transport, accounts with
their credentials, calls, the pipeline, and the replay of a recording.  Each has the value
that stands where nothing is said.
-/
import SipStills.Fault

namespace SipStills

/-- The number of credentials that the engine's table has room for. -/
def maxCredentials : Nat := 8

/-- How much is logged, and where. -/
structure LogSettings where
  /-- The engine's verbosity, meant to lie in `0..6`. -/
  level : UInt8 := 5
  /-- The console's verbosity, meant to lie in `0..6`. -/
  consoleLevel : UInt8 := 4
  /-- The engine's log file. -/
  file : Option String := none
deriving DecidableEq

namespace LogSettings

/-- Sets the engine's verbosity, at most `6`. -/
def setLevel (s : LogSettings) (level : UInt8) : LogSettings := { s with level := min level 6 }

/-- Sets the console's verbosity, at most `6`. -/
def setConsoleLevel (s : LogSettings) (level : UInt8) : LogSettings :=
  { s with consoleLevel := min level 6 }

/-- The name of the console's threshold. -/
def threshold (s : LogSettings) : String :=
  match s.consoleLevel.toNat with
  | 0 => "OFF"
  | 1 => "ERROR"
  | 2 => "WARN"
  | 3 => "INFO"
  | 4 => "DEBUG"
  | _ => "TRACE"

end LogSettings

/-- How the endpoint presents itself. -/
structure EndpointSettings where
  /-- The name it gives in requests. -/
  userAgent : String := "gua/0.1.0"
  /-- The number of calls it takes at once. -/
  maxCalls : UInt32 := 4
  /-- Its log. -/
  log : LogSettings := {}
deriving DecidableEq

/-- The transport protocols. -/
inductive TransportKind where
  | udp
  | tcp
  | tls
deriving DecidableEq

/-- Where the endpoint listens. -/
structure TransportSettings where
  /-- The protocol. -/
  kind : TransportKind := .udp
  /-- The port; `0` lets the engine choose. -/
  port : UInt16 := 0
  /-- The address to bind. -/
  boundAddress : Option String := none
  /-- The address to publish. -/
  publicAddress : Option String := none
deriving DecidableEq

/-- What the secret of a credential is. -/
inductive CredentialKind where
  | plain
  | digest
  | aka
deriving DecidableEq

namespace CredentialKind

/-- The engine's number for the kind. -/
def code : CredentialKind → Int
  | .plain => 0
  | .digest => 1
  | .aka => 2

/-- The kind with the given number. -/
def ofCode? (code : Int) : Option CredentialKind :=
  if code = 0 then some .plain
  else if code = 1 then some .digest
  else if code = 2 then some .aka
  else none

end CredentialKind

/-- A credential for one realm. -/
structure Credential where
  /-- The authentication scheme. -/
  scheme : String
  /-- The realm it is for. -/
  realm : String
  /-- The user it names. -/
  username : String
  /-- What its secret is. -/
  kind : CredentialKind := .plain
  /-- The secret. -/
  secret : String
deriving DecidableEq

/-- An account and its registrar. -/
structure AccountSettings where
  /-- The account's own address. -/
  idUri : String := ""
  /-- The registrar; empty for none. -/
  registrarUri : String := ""
  /-- The expiry asked for, in seconds. -/
  timeout : UInt32 := 300
  /-- The credentials, at most `maxCredentials` of them. -/
  credentials : List Credential := []
deriving DecidableEq

/-- Adds a credential while there is room for one. -/
def AccountSettings.addCredential (s : AccountSettings) (c : Credential) :
    Except Fault AccountSettings :=
  if maxCredentials ≤ s.credentials.length then .error (.tooManyCredentials maxCredentials)
  else .ok { s with credentials := s.credentials ++ [c] }

/-- The media of a call. -/
structure CallSettings where
  /-- The number of audio streams. -/
  audioCount : UInt32 := 1
  /-- The number of video streams. -/
  videoCount : UInt32 := 1
  /-- Further options, as bits. -/
  flags : UInt32 := 0
deriving DecidableEq

/-- A call that only receives video. -/
def CallSettings.play : CallSettings := ⟨0, 1, 0⟩

/-- How long a decode context lives. -/
inductive DecodeMode where
  /-- One context per session, kept from packet to packet. -/
  | perSession
  /-- A fresh context for every packet, right for streams without references. -/
  | perEvent
deriving DecidableEq

/-- How events become stills. -/
structure PipelineSettings where
  /-- The life of a decode context. -/
  mode : DecodeMode := .perSession
  /-- The quality of the stills. -/
  quality : UInt8 := 85
deriving DecidableEq

/-- A recording to be fed through the decode path. -/
structure ReplaySettings where
  /-- The recording. -/
  path : String
  /-- The session it is fed to. -/
  callee : String
  /-- The number of bytes read at once. -/
  chunkSize : UInt64 := 1400
deriving DecidableEq

/-- Everything that can be configured. -/
structure Settings where
  /-- The endpoint. -/
  endpoint : EndpointSettings := {}
  /-- Its transport. -/
  transport : TransportSettings := {}
  /-- The pipeline. -/
  pipeline : PipelineSettings := {}
  /-- The account to register, if any. -/
  account : Option AccountSettings := none
  /-- The addresses to play once the account is registered. -/
  targets : List String := []
  /-- The directory that the stills are written into. -/
  outputDir : String := "."
  /-- The recording to replay, if any. -/
  replay : Option ReplaySettings := none
deriving DecidableEq

end SipStills
