import CompilerLog.Properties.Content
import CompilerLog.Proofs.Json.Parser
import CompilerLog.Proofs.Json.Record
import CompilerLog.Proofs.Text.Utf8
/-!
# A stored content is read back

Every content has a text, the text is well-formed UTF-8, and what is read from it is the content:
every version, every configuration and every entry of its lists, whatever characters they have.
-/

namespace CompilerLog

namespace Configuration

theorem ofJson?_toJson (c : Configuration) : ofJson? c.toJson = some c := by
  have hfields : c.toJson = .ofFields (fieldNames.zip
      [.ofString c.name, .ofString c.compilerPath, .ofStrings c.compilerArgs,
        .ofString c.intelliSenseMode, .ofStrings c.includePath, .ofStrings c.forcedInclude,
        .ofString c.cStandard, .ofString c.cppStandard, .ofStrings c.defines]) := rfl
  rw [ofJson?, hfields, Json.asRecord?_ofFields (by decide) rfl]
  simp [Json.optional?]

theorem written_toJson (c : Configuration) : Json.Written c.toJson := by
  refine Json.written_ofFields fun field hfield => ?_
  simp only [List.mem_cons, List.not_mem_nil, or_false] at hfield
  rcases hfield with rfl | rfl | rfl | rfl | rfl | rfl | rfl | rfl | rfl
  all_goals first | exact Json.written_ofString _ | exact Json.written_ofStrings _

end Configuration

namespace Content

theorem ofJson?_toJson (c : Content) : ofJson? c.toJson = some c := by
  have hfields : c.toJson = .ofFields (fieldNames.zip
      [.ofNat c.version.toNat, .array (c.configurations.map Configuration.toJson)]) := rfl
  have hconfigurations : Json.asList? Configuration.ofJson?
      (.array (c.configurations.map Configuration.toJson)) = some c.configurations :=
    Json.asList?_map fun configuration _ => configuration.ofJson?_toJson
  rw [ofJson?, hfields, Json.asRecord?_ofFields (by decide) rfl]
  simp [Json.optional?, Json.asUInt32?_ofNat, hconfigurations]

theorem written_toJson (c : Content) : Json.Written c.toJson := by
  refine Json.written_ofFields fun field hfield => ?_
  simp only [List.mem_cons, List.not_mem_nil, or_false] at hfield
  rcases hfield with rfl | rfl
  · exact Json.written_ofNat _
  · refine .array fun item hitem => ?_
    obtain ⟨configuration, _, rfl⟩ := List.mem_map.mp hitem
    exact configuration.written_toJson

theorem ofText?_toText (c : Content) : ofText? c.toText = some c := by
  rw [ofText?, toText, Json.parse?_print Json.neutral_indented c.written_toJson, Option.bind_some,
    ofJson?_toJson]

/-- Every content can be stored: the bytes of its text are well-formed, and the content is what the
text reads as. -/
theorem content_is_read_back (c : Content) :
    ∃ text, Text.Utf8.decode? (Text.Utf8.encode c.toText) = some text ∧
      ofText? (String.ofList text) = some c := by
  refine ⟨c.toText.toList, Text.Utf8.decode?_encode c.toText, ?_⟩
  rw [String.ofList_toList]
  exact c.ofText?_toText

end Content

end CompilerLog
