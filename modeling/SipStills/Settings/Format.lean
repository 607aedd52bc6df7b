/-
# Settings as JSON

The field names and formats of the settings.  Almost everything has a value that stands where
nothing is said; a credential and a replay have to name what they are for.

Main definition: `Settings.load`, which reads the settings from the bytes of a file.
-/
import SipStills.Json.Record
import SipStills.Settings.Basic
import SipStills.Text.Utf8

namespace SipStills

open Json (Format Record Field)

/-- The string format. -/
def textFormat : Format String := .text "a string"

/-- The format of paths, which are strings. -/
def pathFormat : Format String := .text "path string"

/-- The fields of the log settings. -/
def LogSettings.record : Record LogSettings where
  name := "LogConfig"
  blank := {}
  fields :=
    [.plain "level" .uint8 (·.level) fun a s => { s with level := a },
      .plain "console_level" .uint8 (·.consoleLevel) fun a s => { s with consoleLevel := a },
      .plain "filename" textFormat.optional (·.file) fun a s => { s with file := a }]

/-- The fields of the endpoint's settings. -/
def EndpointSettings.record : Record EndpointSettings where
  name := "EndpointConfig"
  blank := {}
  fields :=
    [.plain "user_agent" textFormat (·.userAgent) fun a s => { s with userAgent := a },
      .plain "max_calls" .uint32 (·.maxCalls) fun a s => { s with maxCalls := a },
      .plain "log" LogSettings.record.format (·.log) fun a s => { s with log := a }]

namespace TransportKind

/-- All protocols. -/
def all : List TransportKind := [.udp, .tcp, .tls]

/-- The name of a protocol. -/
def name : TransportKind → String
  | .udp => "udp"
  | .tcp => "tcp"
  | .tls => "tls"

/-- Protocols are written by name. -/
def format : Format TransportKind := .alternatives all name

end TransportKind

/-- The fields of the transport's settings. -/
def TransportSettings.record : Record TransportSettings where
  name := "TransportConfig"
  blank := {}
  fields :=
    [.plain "kind" TransportKind.format (·.kind) fun a s => { s with kind := a },
      .plain "port" .uint16 (·.port) fun a s => { s with port := a },
      .plain "bound_addr" textFormat.optional (·.boundAddress)
        fun a s => { s with boundAddress := a },
      .plain "public_addr" textFormat.optional (·.publicAddress)
        fun a s => { s with publicAddress := a }]

namespace CredentialKind

/-- All kinds of secrets. -/
def all : List CredentialKind := [.plain, .digest, .aka]

/-- The name of a kind. -/
def name : CredentialKind → String
  | .plain => "plain"
  | .digest => "digest"
  | .aka => "aka"

/-- Kinds are written by name. -/
def format : Format CredentialKind := .alternatives all name

end CredentialKind

/-- The fields of a credential. -/
def Credential.record : Record Credential where
  name := "AuthCredInfo"
  blank := ⟨"", "", "", .plain, ""⟩
  fields :=
    [.needed "scheme" textFormat (·.scheme) fun a s => { s with scheme := a },
      .needed "realm" textFormat (·.realm) fun a s => { s with realm := a },
      .needed "username" textFormat (·.username) fun a s => { s with username := a },
      .plain "data_type" CredentialKind.format (·.kind) fun a s => { s with kind := a },
      .needed "data" textFormat (·.secret) fun a s => { s with secret := a }]

/-- The fields of an account's settings. -/
def AccountSettings.record : Record AccountSettings where
  name := "AccountConfig"
  blank := {}
  fields :=
    [.plain "id_uri" textFormat (·.idUri) fun a s => { s with idUri := a },
      .plain "reg_uri" textFormat (·.registrarUri) fun a s => { s with registrarUri := a },
      .plain "reg_timeout_secs" .uint32 (·.timeout) fun a s => { s with timeout := a },
      .plain "credentials" Credential.record.format.list (·.credentials)
        fun a s => { s with credentials := a }]

/-- The fields of a call's settings. -/
def CallSettings.record : Record CallSettings where
  name := "CallSetting"
  blank := {}
  fields :=
    [.plain "audio_count" .uint32 (·.audioCount) fun a s => { s with audioCount := a },
      .plain "video_count" .uint32 (·.videoCount) fun a s => { s with videoCount := a },
      .plain "flags" .uint32 (·.flags) fun a s => { s with flags := a }]

namespace DecodeMode

/-- Both modes. -/
def all : List DecodeMode := [.perSession, .perEvent]

/-- The name of a mode. -/
def name : DecodeMode → String
  | .perSession => "per_session"
  | .perEvent => "per_event"

/-- Modes are written by name. -/
def format : Format DecodeMode := .alternatives all name

end DecodeMode

/-- The fields of the pipeline's settings. -/
def PipelineSettings.record : Record PipelineSettings where
  name := "PipelineConfig"
  blank := {}
  fields :=
    [.plain "decode_mode" DecodeMode.format (·.mode) fun a s => { s with mode := a },
      .plain "jpeg_quality" .uint8 (·.quality) fun a s => { s with quality := a }]

/-- The fields of a replay. -/
def ReplaySettings.record : Record ReplaySettings where
  name := "ReplayConfig"
  blank := { path := "", callee := "" }
  fields :=
    [.needed "path" pathFormat (·.path) fun a s => { s with path := a },
      .needed "callee_id" textFormat (·.callee) fun a s => { s with callee := a },
      .plain "chunk_size" .size (·.chunkSize) fun a s => { s with chunkSize := a }]

namespace Settings

/-- The fields of the settings. -/
def record : Record Settings where
  name := "AppConfig"
  blank := {}
  fields :=
    [.plain "endpoint" EndpointSettings.record.format (·.endpoint)
        fun a s => { s with endpoint := a },
      .plain "transport" TransportSettings.record.format (·.transport)
        fun a s => { s with transport := a },
      .plain "pipeline" PipelineSettings.record.format (·.pipeline)
        fun a s => { s with pipeline := a },
      .plain "account" AccountSettings.record.format.optional (·.account)
        fun a s => { s with account := a },
      .plain "targets" textFormat.list (·.targets) fun a s => { s with targets := a },
      .plain "output_dir" pathFormat (·.outputDir) fun a s => { s with outputDir := a },
      .plain "replay" ReplaySettings.record.format.optional (·.replay)
        fun a s => { s with replay := a }]

/-- The format of the settings. -/
def format : Format Settings := record.format

end Settings

/-- A text of some format, written in full: what was left out is there, and nothing else. -/
def Json.Format.complete {α : Type} (f : Format α) (text : String) : Except Json.Fault String :=
  match f.parse text with
  | .error e => .error e
  | .ok a => .ok (f.render a)

/-- The parts of the settings, by the name of their type, each with the completion of its
texts. -/
def Settings.completions : List (String × (String → Except Json.Fault String)) :=
  [("LogConfig", LogSettings.record.format.complete),
    ("EndpointConfig", EndpointSettings.record.format.complete),
    ("TransportConfig", TransportSettings.record.format.complete),
    ("AuthCredInfo", Credential.record.format.complete),
    ("AccountConfig", AccountSettings.record.format.complete),
    ("CallSetting", CallSettings.record.format.complete),
    ("PipelineConfig", PipelineSettings.record.format.complete),
    ("ReplayConfig", ReplaySettings.record.format.complete),
    ("TransportKind", TransportKind.format.complete),
    ("CredentialDataType", CredentialKind.format.complete),
    ("DecodeMode", DecodeMode.format.complete)]

/-- Why settings could not be loaded. -/
inductive LoadFault where
  /-- The file cannot be used. -/
  | file (cause : FileFault)
  /-- Its text is at fault. -/
  | text (cause : Json.Fault)

/-- The text that tells why settings could not be loaded. -/
def LoadFault.message : LoadFault → String
  | .file .notFound => "settings not found"
  | .file .notText => "settings are not text"
  | .text .malformed => "settings are malformed"
  | .text .unfinished => "settings are incomplete"
  | .text (.mismatch cause) => "settings do not fit: " ++ cause.message

/-- The settings in a file, given its bytes if it exists. -/
def Settings.load (file : Option Bytes) : Except LoadFault Settings :=
  match file with
  | none => .error (.file .notFound)
  | some bytes =>
    match Text.Utf8.strict? bytes with
    | none => .error (.file .notText)
    | some text =>
      match format.parse (String.ofList text) with
      | .error e => .error (.text e)
      | .ok s => .ok s

end SipStills
