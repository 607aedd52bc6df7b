/-
# Settings are read as they were written

Every value of every type of settings is restored from its JSON text, and the settings themselves
from a file that holds their text (`settings_round_trip`).

For the named alternatives it matters that their names differ.  For a record it matters that its
fields have different names and that setting them one after the other, from the blank record, gives
the record back: none may be forgotten and no two may set the same component.
-/
import SipStills.Proofs.Json.Records
import SipStills.Proofs.Text.Utf8
import SipStills.Settings.Format

namespace SipStills

open Json Json.Format

lemma restores_textFormat (text : String) : textFormat.Restores text := restores_text _ text

lemma restores_pathFormat (path : String) : pathFormat.Restores path := restores_text _ path

/-- A written text begins with a quote, so it is not taken for an absent value. -/
lemma restores_optionalText (text : Option String) : textFormat.optional.Restores text := by
  refine restores_optional restores_textFormat (fun text rest h => ?_) text
  exact absurd (List.cons.inj h).1 (by decide)

/-! ### Named alternatives -/

lemma TransportKind.restores (kind : TransportKind) : TransportKind.format.Restores kind := by
  apply restores_alternatives
  · cases kind <;> decide
  · cases kind <;> decide

lemma CredentialKind.restores (kind : CredentialKind) : CredentialKind.format.Restores kind := by
  apply restores_alternatives
  · cases kind <;> decide
  · cases kind <;> decide

lemma DecodeMode.restores (mode : DecodeMode) : DecodeMode.format.Restores mode := by
  apply restores_alternatives
  · cases mode <;> decide
  · cases mode <;> decide

/-! ### Records -/

lemma LogSettings.restores (s : LogSettings) : LogSettings.record.format.Restores s :=
  Record.restores_format (by decide)
    (.make (restores_uint8 s.level) (.make (restores_uint8 s.consoleLevel)
      (.make (restores_optionalText s.file) (.nil s))))

lemma EndpointSettings.restores (s : EndpointSettings) :
    EndpointSettings.record.format.Restores s :=
  Record.restores_format (by decide)
    (.make (restores_textFormat s.userAgent) (.make (restores_uint32 s.maxCalls)
      (.make s.log.restores (.nil s))))

lemma TransportSettings.restores (s : TransportSettings) :
    TransportSettings.record.format.Restores s :=
  Record.restores_format (by decide)
    (.make s.kind.restores (.make (restores_uint16 s.port)
      (.make (restores_optionalText s.boundAddress)
        (.make (restores_optionalText s.publicAddress) (.nil s)))))

lemma Credential.restores (c : Credential) : Credential.record.format.Restores c :=
  Record.restores_format (by decide)
    (.make (restores_textFormat c.scheme) (.make (restores_textFormat c.realm)
      (.make (restores_textFormat c.username) (.make c.kind.restores
        (.make (restores_textFormat c.secret) (.nil c))))))

lemma AccountSettings.restores (s : AccountSettings) : AccountSettings.record.format.Restores s :=
  Record.restores_format (by decide)
    (.make (restores_textFormat s.idUri) (.make (restores_textFormat s.registrarUri)
      (.make (restores_uint32 s.timeout)
        (.make (restores_list fun c _ => c.restores) (.nil s)))))

lemma CallSettings.restores (s : CallSettings) : CallSettings.record.format.Restores s :=
  Record.restores_format (by decide)
    (.make (restores_uint32 s.audioCount) (.make (restores_uint32 s.videoCount)
      (.make (restores_uint32 s.flags) (.nil s))))

lemma PipelineSettings.restores (s : PipelineSettings) :
    PipelineSettings.record.format.Restores s :=
  Record.restores_format (by decide)
    (.make s.mode.restores (.make (restores_uint8 s.quality) (.nil s)))

lemma ReplaySettings.restores (s : ReplaySettings) : ReplaySettings.record.format.Restores s :=
  Record.restores_format (by decide)
    (.make (restores_pathFormat s.path) (.make (restores_textFormat s.callee)
      (.make (restores_size s.chunkSize) (.nil s))))

lemma Settings.restores (s : Settings) : Settings.format.Restores s :=
  Record.restores_format (by decide)
    (.make s.endpoint.restores (.make s.transport.restores (.make s.pipeline.restores
      (.make (restores_optional AccountSettings.restores (Record.write_format_ne _) s.account)
        (.make (restores_list fun text _ => restores_textFormat text)
          (.make (restores_pathFormat s.outputDir)
            (.make (restores_optional ReplaySettings.restores (Record.write_format_ne _) s.replay)
              (.nil s))))))))

/-! ### The round trip -/

/-- A file that holds the text of settings is loaded as these settings. -/
lemma Settings.load_render (s : Settings) :
    Settings.load (some (Text.Utf8.encode (Settings.format.render s).toList)) = .ok s := by
  simp only [load, Text.Utf8.strict?_encode, String.ofList_toList, s.restores.parse_render]

/-- Settings of every type are read as they were written, each type taken alone, and the settings
as a whole also from the bytes of a file. -/
theorem settings_round_trip :
    Settings.format.RoundTrips
      ∧ (∀ s, Settings.load (some (Text.Utf8.encode (Settings.format.render s).toList)) = .ok s)
      ∧ LogSettings.record.format.RoundTrips
      ∧ EndpointSettings.record.format.RoundTrips
      ∧ TransportSettings.record.format.RoundTrips
      ∧ Credential.record.format.RoundTrips
      ∧ AccountSettings.record.format.RoundTrips
      ∧ CallSettings.record.format.RoundTrips
      ∧ PipelineSettings.record.format.RoundTrips
      ∧ ReplaySettings.record.format.RoundTrips
      ∧ TransportKind.format.RoundTrips
      ∧ CredentialKind.format.RoundTrips
      ∧ DecodeMode.format.RoundTrips := by
  refine ⟨?_, Settings.load_render, ?_, ?_, ?_, ?_, ?_, ?_, ?_, ?_, ?_, ?_, ?_⟩
  · exact roundTrips_of_restores Settings.restores
  · exact roundTrips_of_restores LogSettings.restores
  · exact roundTrips_of_restores EndpointSettings.restores
  · exact roundTrips_of_restores TransportSettings.restores
  · exact roundTrips_of_restores Credential.restores
  · exact roundTrips_of_restores AccountSettings.restores
  · exact roundTrips_of_restores CallSettings.restores
  · exact roundTrips_of_restores PipelineSettings.restores
  · exact roundTrips_of_restores ReplaySettings.restores
  · exact roundTrips_of_restores TransportKind.restores
  · exact roundTrips_of_restores CredentialKind.restores
  · exact roundTrips_of_restores DecodeMode.restores

end SipStills
