/-
# Partial settings

The object of some settings may leave out, at every depth, what has a value where nothing is said:
all but the scheme, realm, user and secret of a credential, and the recording and session of a
replay.  A selection says what is kept (`Settings.Kept`), and `Settings.keep` what is then left of
the settings.  Any text of such an object, with the keys in any order and others among them, is read
as just that; and where a field that has to be there is missing, or a known key is repeated, at any
depth, the whole text is refused (`partial_settings`).
-/
import SipStills.Proofs.Json.Outline
import SipStills.Proofs.Settings

namespace SipStills

open Json Json.Format
open Json.Value (IsText IsNat IsOption IsList Says)

/-! ### What is kept -/

/-- Which log settings are kept. -/
structure LogSettings.Kept where
  level : Bool
  consoleLevel : Bool
  file : Bool

/-- Which of the endpoint's settings are kept, and which log settings if there are any. -/
structure EndpointSettings.Kept where
  userAgent : Bool
  maxCalls : Bool
  log : Option LogSettings.Kept

/-- Which of the transport's settings are kept. -/
structure TransportSettings.Kept where
  kind : Bool
  port : Bool
  boundAddress : Bool
  publicAddress : Bool

/-- Whether a credential keeps the kind of its secret; the rest has to be kept. -/
structure Credential.Kept where
  kind : Bool

/-- Which of an account's settings are kept, and what of each credential if these are. -/
structure AccountSettings.Kept where
  idUri : Bool
  registrarUri : Bool
  timeout : Bool
  credentials : Option (Nat → Credential.Kept)

/-- Which of the pipeline's settings are kept. -/
structure PipelineSettings.Kept where
  mode : Bool
  quality : Bool

/-- Whether a replay keeps the number of bytes that are read at once; the rest has to be kept. -/
structure ReplaySettings.Kept where
  chunkSize : Bool

/-- Which settings are kept, and what of them. -/
structure Settings.Kept where
  endpoint : Option EndpointSettings.Kept
  transport : Option TransportSettings.Kept
  pipeline : Option PipelineSettings.Kept
  account : Option AccountSettings.Kept
  targets : Bool
  outputDir : Bool
  replay : Option ReplaySettings.Kept

/-! ### What is left

What is not kept is as where nothing is said. -/

/-- What is left of log settings. -/
def LogSettings.keep (s : LogSettings) (k : Kept) : LogSettings where
  level := if k.level then s.level else ({} : LogSettings).level
  consoleLevel := if k.consoleLevel then s.consoleLevel else ({} : LogSettings).consoleLevel
  file := if k.file then s.file else ({} : LogSettings).file

/-- What is left of the endpoint's settings. -/
def EndpointSettings.keep (s : EndpointSettings) (k : Kept) : EndpointSettings where
  userAgent := if k.userAgent then s.userAgent else ({} : EndpointSettings).userAgent
  maxCalls := if k.maxCalls then s.maxCalls else ({} : EndpointSettings).maxCalls
  log := k.log.elim {} s.log.keep

/-- What is left of the transport's settings. -/
def TransportSettings.keep (s : TransportSettings) (k : Kept) : TransportSettings where
  kind := if k.kind then s.kind else ({} : TransportSettings).kind
  port := if k.port then s.port else ({} : TransportSettings).port
  boundAddress := if k.boundAddress then s.boundAddress else none
  publicAddress := if k.publicAddress then s.publicAddress else none

/-- What is left of a credential. -/
def Credential.keep (c : Credential) (k : Kept) : Credential :=
  { c with kind := if k.kind then c.kind else .plain }

/-- What is left of an account's settings. -/
def AccountSettings.keep (s : AccountSettings) (k : Kept) : AccountSettings where
  idUri := if k.idUri then s.idUri else ({} : AccountSettings).idUri
  registrarUri := if k.registrarUri then s.registrarUri else ({} : AccountSettings).registrarUri
  timeout := if k.timeout then s.timeout else ({} : AccountSettings).timeout
  credentials := k.credentials.elim [] fun ks => s.credentials.mapIdx fun i c => c.keep (ks i)

/-- What is left of the pipeline's settings. -/
def PipelineSettings.keep (s : PipelineSettings) (k : Kept) : PipelineSettings where
  mode := if k.mode then s.mode else ({} : PipelineSettings).mode
  quality := if k.quality then s.quality else ({} : PipelineSettings).quality

/-- What is left of a replay. -/
def ReplaySettings.keep (s : ReplaySettings) (k : Kept) : ReplaySettings :=
  { s with chunkSize := if k.chunkSize then s.chunkSize else 1400 }

/-- What is left of the settings. -/
def Settings.keep (s : Settings) (k : Kept) : Settings where
  endpoint := k.endpoint.elim {} s.endpoint.keep
  transport := k.transport.elim {} s.transport.keep
  pipeline := k.pipeline.elim {} s.pipeline.keep
  account := k.account.elim none fun k => s.account.map fun a => a.keep k
  targets := if k.targets then s.targets else ({} : Settings).targets
  outputDir := if k.outputDir then s.outputDir else ({} : Settings).outputDir
  replay := k.replay.elim none fun k => s.replay.map fun r => r.keep k

/-! ### The objects of what is kept -/

/-- The objects that show what is kept of log settings. -/
def LogSettings.Shows (s : LogSettings) (k : Kept) : Value → Prop :=
  Says
    [("level", given k.level (IsNat s.level.toNat)),
      ("console_level", given k.consoleLevel (IsNat s.consoleLevel.toNat)),
      ("filename", given k.file (IsOption IsText s.file))]

/-- The objects that show what is kept of the endpoint's settings. -/
def EndpointSettings.Shows (s : EndpointSettings) (k : Kept) : Value → Prop :=
  Says
    [("user_agent", given k.userAgent (IsText s.userAgent)),
      ("max_calls", given k.maxCalls (IsNat s.maxCalls.toNat)),
      ("log", k.log.map s.log.Shows)]

/-- The objects that show what is kept of the transport's settings. -/
def TransportSettings.Shows (s : TransportSettings) (k : Kept) : Value → Prop :=
  Says
    [("kind", given k.kind (IsText s.kind.name)),
      ("port", given k.port (IsNat s.port.toNat)),
      ("bound_addr", given k.boundAddress (IsOption IsText s.boundAddress)),
      ("public_addr", given k.publicAddress (IsOption IsText s.publicAddress))]

/-- The objects that show what is kept of a credential. -/
def Credential.Shows (c : Credential) (k : Kept) : Value → Prop :=
  Says
    [("scheme", some (IsText c.scheme)),
      ("realm", some (IsText c.realm)),
      ("username", some (IsText c.username)),
      ("data_type", given k.kind (IsText c.kind.name)),
      ("data", some (IsText c.secret))]

/-- The objects that show what is kept of an account's settings. -/
def AccountSettings.Shows (s : AccountSettings) (k : Kept) : Value → Prop :=
  Says
    [("id_uri", given k.idUri (IsText s.idUri)),
      ("reg_uri", given k.registrarUri (IsText s.registrarUri)),
      ("reg_timeout_secs", given k.timeout (IsNat s.timeout.toNat)),
      ("credentials", k.credentials.map fun ks =>
        IsList (s.credentials.mapIdx fun i c => c.Shows (ks i)))]

/-- The objects that show what is kept of the pipeline's settings. -/
def PipelineSettings.Shows (s : PipelineSettings) (k : Kept) : Value → Prop :=
  Says
    [("decode_mode", given k.mode (IsText s.mode.name)),
      ("jpeg_quality", given k.quality (IsNat s.quality.toNat))]

/-- The objects that show what is kept of a replay. -/
def ReplaySettings.Shows (s : ReplaySettings) (k : Kept) : Value → Prop :=
  Says
    [("path", some (IsText s.path)),
      ("callee_id", some (IsText s.callee)),
      ("chunk_size", given k.chunkSize (IsNat s.chunkSize.toNat))]

/-- The objects that show what is kept of the settings. -/
def Settings.Shows (s : Settings) (k : Kept) : Value → Prop :=
  Says
    [("endpoint", k.endpoint.map s.endpoint.Shows),
      ("transport", k.transport.map s.transport.Shows),
      ("pipeline", k.pipeline.map s.pipeline.Shows),
      ("account", k.account.map fun k => IsOption (fun a => a.Shows k) s.account),
      ("targets", given k.targets (IsList (s.targets.map IsText))),
      ("output_dir", given k.outputDir (IsText s.outputDir)),
      ("replay", k.replay.map fun k => IsOption (fun r => r.Shows k) s.replay)]

/-! ### Reading what is kept -/

lemma answers_optionalText {o : Option String} {v : Value} (h : IsOption IsText o v) :
    Answers textFormat.optional.read v (some o) := by
  have hkind : ∀ s v, IsText s v → v ≠ .null ∧ Answers textFormat.read v (some (id s)) :=
    fun _ _ h => ⟨h.ne_null, answers_isText _ h⟩
  have hread := answers_isOption hkind h
  rwa [Option.map_id, id] at hread

/-- The name of an alternative is answered with it. -/
lemma answers_name {α : Type} {all : List α} {nameOf : α → String} {a : α} (ha : a ∈ all)
    (hname : ∀ b ∈ all, nameOf b = nameOf a → b = a) {v : Value} (h : v.IsText (nameOf a)) :
    Answers (alternatives all nameOf).read v (some a) := by
  obtain ⟨text, rfl, hspells⟩ := h
  exact answers_alternatives ha hname hspells

lemma TransportKind.answers_name {kind : TransportKind} {v : Value} (h : v.IsText kind.name) :
    Answers TransportKind.format.read v (some kind) :=
  SipStills.answers_name (by cases kind <;> decide) (by cases kind <;> decide) h

lemma CredentialKind.answers_name {kind : CredentialKind} {v : Value} (h : v.IsText kind.name) :
    Answers CredentialKind.format.read v (some kind) :=
  SipStills.answers_name (by cases kind <;> decide) (by cases kind <;> decide) h

lemma DecodeMode.answers_name {mode : DecodeMode} {v : Value} (h : v.IsText mode.name) :
    Answers DecodeMode.format.read v (some mode) :=
  SipStills.answers_name (by cases mode <;> decide) (by cases mode <;> decide) h

lemma LogSettings.answers_keep {s : LogSettings} {k : Kept} {v : Value} (h : s.Shows k v) :
    Answers record.format.read v (some (s.keep k)) :=
  Record.answers_says h (by decide)
    (.kept (fun _ => answers_uint8) (fun _ => rfl)
      (.kept (fun _ => answers_uint8) (fun _ => rfl)
        (.kept (fun _ => answers_optionalText) (fun _ => rfl) .nil)))
    (by simp [Swaps]) rfl

lemma EndpointSettings.answers_keep {s : EndpointSettings} {k : Kept} {v : Value}
    (h : s.Shows k v) : Answers record.format.read v (some (s.keep k)) :=
  Record.answers_says h (by decide)
    (.kept (fun _ => answers_isText _) (fun _ => rfl)
      (.kept (fun _ => answers_uint32) (fun _ => rfl)
        (.part s.log.keep (fun _ _ => s.log.answers_keep) (fun _ => rfl) .nil)))
    (by simp [Swaps]) rfl

lemma TransportSettings.answers_keep {s : TransportSettings} {k : Kept} {v : Value}
    (h : s.Shows k v) : Answers record.format.read v (some (s.keep k)) :=
  Record.answers_says h (by decide)
    (.kept (fun _ => TransportKind.answers_name) (fun _ => rfl)
      (.kept (fun _ => answers_uint16) (fun _ => rfl)
        (.kept (fun _ => answers_optionalText) (fun _ => rfl)
          (.kept (fun _ => answers_optionalText) (fun _ => rfl) .nil))))
    (by simp [Swaps]) rfl

lemma Credential.answers_keep {c : Credential} {k : Kept} {v : Value} (h : c.Shows k v) :
    Answers record.format.read v (some (c.keep k)) :=
  Record.answers_says h (by decide)
    (.told (fun _ => answers_isText _) (.told (fun _ => answers_isText _)
      (.told (fun _ => answers_isText _)
        (.kept (fun _ => CredentialKind.answers_name) (fun _ => rfl)
          (.told (fun _ => answers_isText _) .nil)))))
    (by simp [Swaps]) rfl

/-- The credentials are read one by one, each with its own part of the selection. -/
lemma Credential.answers_list (cs : List Credential) (ks : Nat → Kept) :
    List.Forall₂ (fun kind c => ∀ v, kind v → Answers record.format.read v (some c))
      (cs.mapIdx fun i c => c.Shows (ks i)) (cs.mapIdx fun i c => c.keep (ks i)) := by
  induction cs generalizing ks with
  | nil => exact .nil
  | cons c cs ih =>
    rw [List.mapIdx_cons, List.mapIdx_cons]
    exact .cons (fun _ => c.answers_keep) (ih fun i => ks (i + 1))

lemma AccountSettings.answers_keep {s : AccountSettings} {k : Kept} {v : Value}
    (h : s.Shows k v) : Answers record.format.read v (some (s.keep k)) :=
  Record.answers_says h (by decide)
    (.kept (fun _ => answers_isText _) (fun _ => rfl)
      (.kept (fun _ => answers_isText _) (fun _ => rfl)
        (.kept (fun _ => answers_uint32) (fun _ => rfl)
          (.part (fun ks => s.credentials.mapIdx fun i c => c.keep (ks i))
            (fun ks _ => answers_isList (Credential.answers_list s.credentials ks))
            (fun _ => rfl) .nil))))
    (by simp [Swaps]) rfl

lemma PipelineSettings.answers_keep {s : PipelineSettings} {k : Kept} {v : Value}
    (h : s.Shows k v) : Answers record.format.read v (some (s.keep k)) :=
  Record.answers_says h (by decide)
    (.kept (fun _ => DecodeMode.answers_name) (fun _ => rfl)
      (.kept (fun _ => answers_uint8) (fun _ => rfl) .nil))
    (by simp [Swaps]) rfl

lemma ReplaySettings.answers_keep {s : ReplaySettings} {k : Kept} {v : Value}
    (h : s.Shows k v) : Answers record.format.read v (some (s.keep k)) :=
  Record.answers_says h (by decide)
    (.told (fun _ => answers_isText _) (.told (fun _ => answers_isText _)
      (.kept (fun _ => answers_size) (fun _ => rfl) .nil)))
    (by simp [Swaps]) rfl

lemma Settings.answers_targets (targets : List String) :
    List.Forall₂ (fun kind t => ∀ v, kind v → Answers textFormat.read v (some t))
      (targets.map IsText) targets := by
  induction targets with
  | nil => exact .nil
  | cons t targets ih => exact .cons (fun _ => answers_isText _) ih

lemma Settings.answers_account {o : Option AccountSettings} {k : AccountSettings.Kept} {v : Value}
    (h : IsOption (fun a => a.Shows k) o v) :
    Answers AccountSettings.record.format.optional.read v (some (o.map fun a => a.keep k)) :=
  answers_isOption (fun _ _ h => ⟨h.ne_null, AccountSettings.answers_keep h⟩) h

lemma Settings.answers_replay {o : Option ReplaySettings} {k : ReplaySettings.Kept} {v : Value}
    (h : IsOption (fun r => r.Shows k) o v) :
    Answers ReplaySettings.record.format.optional.read v (some (o.map fun r => r.keep k)) :=
  answers_isOption (fun _ _ h => ⟨h.ne_null, ReplaySettings.answers_keep h⟩) h

lemma Settings.answers_keep {s : Settings} {k : Kept} {v : Value} (h : s.Shows k v) :
    Answers format.read v (some (s.keep k)) :=
  Record.answers_says h (by decide)
    (.part s.endpoint.keep (fun _ _ => s.endpoint.answers_keep) (fun _ => rfl)
      (.part s.transport.keep (fun _ _ => s.transport.answers_keep) (fun _ => rfl)
        (.part s.pipeline.keep (fun _ _ => s.pipeline.answers_keep) (fun _ => rfl)
          (.part (fun k => s.account.map fun a => a.keep k) (fun _ _ => answers_account)
            (fun _ => rfl)
            (.kept (fun _ => answers_isList (answers_targets s.targets)) (fun _ => rfl)
              (.kept (fun _ => answers_isText _) (fun _ => rfl)
                (.part (fun k => s.replay.map fun r => r.keep k) (fun _ _ => answers_replay)
                  (fun _ => rfl) .nil)))))))
    (by simp [Swaps]) rfl

/-! ### Outlines -/

/-- The outline of log settings. -/
def LogSettings.outline : Outline :=
  .object [⟨"level", false, .nat UInt8.size⟩, ⟨"console_level", false, .nat UInt8.size⟩,
    ⟨"filename", false, .optional .text⟩]

/-- The outline of the endpoint's settings. -/
def EndpointSettings.outline : Outline :=
  .object [⟨"user_agent", false, .text⟩, ⟨"max_calls", false, .nat UInt32.size⟩,
    ⟨"log", false, LogSettings.outline⟩]

/-- The outline of the transport's settings. -/
def TransportSettings.outline : Outline :=
  .object [⟨"kind", false, .names (TransportKind.all.map TransportKind.name)⟩,
    ⟨"port", false, .nat UInt16.size⟩, ⟨"bound_addr", false, .optional .text⟩,
    ⟨"public_addr", false, .optional .text⟩]

/-- The outline of a credential. -/
def Credential.outline : Outline :=
  .object [⟨"scheme", true, .text⟩, ⟨"realm", true, .text⟩, ⟨"username", true, .text⟩,
    ⟨"data_type", false, .names (CredentialKind.all.map CredentialKind.name)⟩,
    ⟨"data", true, .text⟩]

/-- The outline of an account's settings. -/
def AccountSettings.outline : Outline :=
  .object [⟨"id_uri", false, .text⟩, ⟨"reg_uri", false, .text⟩,
    ⟨"reg_timeout_secs", false, .nat UInt32.size⟩,
    ⟨"credentials", false, .list Credential.outline⟩]

/-- The outline of the pipeline's settings. -/
def PipelineSettings.outline : Outline :=
  .object [⟨"decode_mode", false, .names (DecodeMode.all.map DecodeMode.name)⟩,
    ⟨"jpeg_quality", false, .nat UInt8.size⟩]

/-- The outline of a replay. -/
def ReplaySettings.outline : Outline :=
  .object [⟨"path", true, .text⟩, ⟨"callee_id", true, .text⟩,
    ⟨"chunk_size", false, .nat UInt64.size⟩]

/-- The outline of the settings. -/
def Settings.outline : Outline :=
  .object [⟨"endpoint", false, EndpointSettings.outline⟩,
    ⟨"transport", false, TransportSettings.outline⟩,
    ⟨"pipeline", false, PipelineSettings.outline⟩,
    ⟨"account", false, .optional AccountSettings.outline⟩,
    ⟨"targets", false, .list .text⟩, ⟨"output_dir", false, .text⟩,
    ⟨"replay", false, .optional ReplaySettings.outline⟩]

lemma judges_textFormat : Outline.text.Judges textFormat.read := Outline.judges_text _

lemma judges_optionalText : Outline.text.optional.Judges textFormat.optional.read :=
  Outline.judges_optional judges_textFormat

lemma LogSettings.judges : LogSettings.outline.Judges record.format.read :=
  Outline.judges_object (by decide)
    (.make Outline.judges_uint8 (.make Outline.judges_uint8 (.make judges_optionalText .nil)))

lemma EndpointSettings.judges : EndpointSettings.outline.Judges record.format.read :=
  Outline.judges_object (by decide)
    (.make judges_textFormat (.make Outline.judges_uint32 (.make LogSettings.judges .nil)))

lemma TransportSettings.judges : TransportSettings.outline.Judges record.format.read :=
  Outline.judges_object (by decide)
    (.make (Outline.judges_alternatives (by decide))
      (.make Outline.judges_uint16 (.make judges_optionalText (.make judges_optionalText .nil))))

lemma Credential.judges : Credential.outline.Judges record.format.read :=
  Outline.judges_object (by decide)
    (.make judges_textFormat (.make judges_textFormat (.make judges_textFormat
      (.make (Outline.judges_alternatives (by decide)) (.make judges_textFormat .nil)))))

lemma AccountSettings.judges : AccountSettings.outline.Judges record.format.read :=
  Outline.judges_object (by decide)
    (.make judges_textFormat (.make judges_textFormat (.make Outline.judges_uint32
      (.make (Outline.judges_list Credential.judges) .nil))))

lemma PipelineSettings.judges : PipelineSettings.outline.Judges record.format.read :=
  Outline.judges_object (by decide)
    (.make (Outline.judges_alternatives (by decide)) (.make Outline.judges_uint8 .nil))

lemma ReplaySettings.judges : ReplaySettings.outline.Judges record.format.read :=
  Outline.judges_object (by decide)
    (.make (Outline.judges_text _) (.make judges_textFormat (.make Outline.judges_size .nil)))

lemma Settings.judges : Settings.outline.Judges Settings.format.read :=
  Outline.judges_object (by decide)
    (.make EndpointSettings.judges (.make TransportSettings.judges (.make PipelineSettings.judges
      (.make (Outline.judges_optional AccountSettings.judges)
        (.make (Outline.judges_list judges_textFormat) (.make (Outline.judges_text _)
          (.make (Outline.judges_optional ReplaySettings.judges) .nil)))))))

/-! ### Whole texts -/

/-- A file is loaded as its text is read, -/
lemma Settings.load_of_parse_eq {text : List Char} {s : Settings}
    (h : Settings.format.parse (String.ofList text) = .ok s) :
    Settings.load (some (Text.Utf8.encode text)) = .ok s := by
  simp only [load, Text.Utf8.strict?_encode, h]

/-- or refused with it. -/
lemma Settings.load_of_parse_error {text : List Char} {e : Json.Fault}
    (h : Settings.format.parse (String.ofList text) = .error e) :
    Settings.load (some (Text.Utf8.encode text)) = .error (.text e) := by
  simp only [load, Text.Utf8.strict?_encode, h]

/-- Any text of an object that shows what is kept of settings, its members in any order and with any
members of other names among them, is read as what is left of the settings.  Where a field is
missing that has to be there, or a known key is repeated, at any depth and whatever else the text
holds, it is refused; and where the values are of the right kinds and nothing is amiss in this way,
it is not.  The same holds for the file of the text. -/
theorem partial_settings {v : Value} {text : List Char} (htext : v.Text text) :
    (∀ (s : Settings) (k : Settings.Kept), s.Shows k v →
        Settings.format.parse (String.ofList text) = .ok (s.keep k)
          ∧ Settings.load (some (Text.Utf8.encode text)) = .ok (s.keep k))
      ∧ (Settings.outline.Flawed v →
        (∃ e, Settings.format.parse (String.ofList text) = .error e)
          ∧ ∃ e, Settings.load (some (Text.Utf8.encode text)) = .error e)
      ∧ (Settings.outline.Fits v → ¬ Settings.outline.Flawed v →
        ∃ s, Settings.format.parse (String.ofList text) = .ok s
          ∧ Settings.load (some (Text.Utf8.encode text)) = .ok s) := by
  obtain ⟨answer, hanswer, hright⟩ := Settings.judges v
  refine ⟨fun s k h => ?_, fun hflawed => ?_, fun hfits hsound => ?_⟩
  · have hparse := (Settings.answers_keep h).parse_eq htext
    exact ⟨hparse, Settings.load_of_parse_eq hparse⟩
  · rw [hright.refused hflawed] at hanswer
    obtain ⟨e, hparse⟩ := hanswer.exists_parse_eq_error htext
    exact ⟨⟨e, hparse⟩, _, Settings.load_of_parse_error hparse⟩
  · cases answer with
    | none => exact absurd (hright.flawed hfits rfl) hsound
    | some s =>
      have hparse := hanswer.parse_eq htext
      exact ⟨s, hparse, Settings.load_of_parse_eq hparse⟩

/-- Most settings are left out, among them the kind of the only secret, and one key is unknown; then
a credential has one key twice, once with a number for its value, and others not at all; and then a
replay has what it has to have. -/
theorem partial_settings_mixed :
    Settings.format.parse (String.ofList ([' '] ++ (writeObject
        [("zoom", writeList [['n', 'u', 'l', 'l']]),
          ("transport", writeObject [("port", Text.digits 5060)]),
          ("account", writeObject [("credentials", writeList [writeObject
            [("data", writeString "p"), ("username", writeString "u"), ("realm", writeString "*"),
              ("scheme", writeString "digest")]])])] ++ ['\n'])))
        = .ok { transport := { port := 5060 },
                account := some { credentials := [⟨"digest", "*", "u", .plain, "p"⟩] } }
      ∧ (∃ e, Settings.format.parse (String.ofList ([] ++ (writeObject
        [("account", writeObject [("credentials", writeList [writeObject
          [("scheme", Text.digits 5), ("scheme", writeString "digest")]])])] ++ []))) = .error e)
      ∧ ∃ s, Settings.format.parse (String.ofList ([] ++ (writeObject
        [("replay", writeObject [("callee_id", writeString "c"), ("path", writeString "p")])]
          ++ []))) = .ok s := by
  refine ⟨?_, ?_, ?_⟩
  · have hcredential := written_writeObject (.cons (.mk "data" (written_writeString "p"))
      (.cons (.mk "username" (written_writeString "u"))
        (.cons (.mk "realm" (written_writeString "*"))
          (.cons (.mk "scheme" (written_writeString "digest")) .nil))))
    have hwritten := written_writeObject
      (.cons (.mk "zoom" (written_writeList (.cons .null .nil)))
        (.cons (.mk "transport"
          (written_writeObject (.cons (.mk "port" (written_digits 5060)) .nil)))
          (.cons (.mk "account" (written_writeObject
            (.cons (.mk "credentials" (written_writeList (.cons hcredential .nil))) .nil))) .nil)))
    have hgap : ∀ c, isSpace c = true → Blank [c] := fun c hc => by simpa [Blank] using hc
    have hshows : Credential.Shows ⟨"digest", "*", "u", .aka, "p"⟩ ⟨false⟩ (.object
        [("data", .quote "p"), ("username", .quote "u"), ("realm", .quote "*"),
          ("scheme", .quote "digest")]) :=
      ⟨_, rfl, by simp [Tells, given, Value.isText_quote]⟩
    have htransport : TransportSettings.Shows { kind := .tcp, port := 5060 }
        ⟨false, true, false, false⟩ (.object [("port", .number (Text.digits 5060))]) :=
      ⟨_, rfl, by simp [Tells, given, IsNat]⟩
    have haccount : AccountSettings.Shows
        { idUri := "sip:u", credentials := [⟨"digest", "*", "u", .aka, "p"⟩] }
        ⟨false, false, false, some fun _ => ⟨false⟩⟩ (.object [("credentials", .list [.object
          [("data", .quote "p"), ("username", .quote "u"), ("realm", .quote "*"),
            ("scheme", .quote "digest")]])]) :=
      ⟨_, rfl, by simp [Tells, given, IsList, hshows]⟩
    exact ((partial_settings (.mk (hgap ' ' rfl) (hgap '\n' rfl) hwritten)).1
      { transport := { kind := .tcp, port := 5060 }, outputDir := "out",
        account := some { idUri := "sip:u", credentials := [⟨"digest", "*", "u", .aka, "p"⟩] } }
      ⟨none, some ⟨false, true, false, false⟩, none,
        some ⟨false, false, false, some fun _ => ⟨false⟩⟩, false, false, none⟩
      ⟨_, rfl, by simp [Tells, given, IsOption, htransport, haccount]⟩).1
  · have hwritten := written_writeObject (.cons (.mk "account" (written_writeObject
      (.cons (.mk "credentials" (written_writeList (.cons (written_writeObject
        (.cons (.mk "scheme" (written_digits 5))
          (.cons (.mk "scheme" (written_writeString "digest")) .nil))) .nil))) .nil))) .nil)
    refine ((partial_settings (.mk blank_nil blank_nil hwritten)).2.1 ?_).1
    simp [Settings.outline, AccountSettings.outline, Credential.outline, Outline.object,
      Outline.optional, Outline.list, Outline.text, named, keys]
  · have hwritten := written_writeObject (.cons (.mk "replay" (written_writeObject
      (.cons (.mk "callee_id" (written_writeString "c"))
        (.cons (.mk "path" (written_writeString "p")) .nil)))) .nil)
    have hcallee : ∃ s, IsText s (.quote "c") := ⟨_, Value.isText_quote "c"⟩
    have hpath : ∃ s, IsText s (.quote "p") := ⟨_, Value.isText_quote "p"⟩
    obtain ⟨s, hparse, -⟩ := (partial_settings (.mk blank_nil blank_nil hwritten)).2.2
      (by simp [Settings.outline, ReplaySettings.outline, Outline.object, Outline.optional,
        Outline.text, List.lookup_cons, hcallee, hpath])
      (by simp [Settings.outline, ReplaySettings.outline, Outline.object, Outline.optional,
        Outline.text, Outline.nat, named, keys])
    exact ⟨s, hparse⟩

end SipStills
