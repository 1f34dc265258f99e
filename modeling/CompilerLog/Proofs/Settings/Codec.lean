import CompilerLog.Proofs.Gcc.DirectoryOption
import CompilerLog.Settings.Codec
/-!
# Settings are read back

The value written for settings is read as these settings, in whatever order the fields of its
objects are kept, as long as the schema is the supported one. With any other schema it is not read
at all.
-/

namespace CompilerLog

open Json (Reordered)

/-- A pattern is the only field of its object, so that there is nothing to reorder. -/
theorem Pattern.ofJson?_of_reordered (p : Pattern) {value : Json} (h : Reordered p.toJson value) :
    ofJson? value = some p := by
  have hsingle {name text : String}
      (h : Reordered (.ofFields [(name, .ofString text)]) value) :
      value = .object [(some name, .ofString text)] := by
    obtain ⟨values, fields, hvalues, hperm, rfl⟩ := h.exists_of_ofFields
    obtain rfl : values = [.ofString text] :=
      Reordered.eq_map_of_forall₂ (l := [text]) (fun _ _ => Reordered.eq_of_ofString) hvalues
    rw [← List.singleton_perm.mp hperm]
  cases p with
  | literal text =>
      rw [hsingle h]
      rfl
  | regex expression =>
      rw [hsingle h]
      rfl

variable {value : Json}

theorem Pattern.asList?_of_reordered {patterns : List Pattern}
    (h : Reordered (.array (patterns.map toJson)) value) :
    Json.asList? ofJson? value = some patterns :=
  Json.asList?_of_reordered (fun p _ => p.ofJson?_of_reordered) h

theorem EngineSettings.ofJson?_of_reordered (e : EngineSettings) {value : Json}
    (h : Reordered e.toJson value) : ofJson? value = some e := by
  have hfields : e.toJson = .ofFields (fieldNames.zip
      [.ofString e.dialect.name, .array (e.required.map Pattern.toJson),
        .array (e.forbidden.map Pattern.toJson), .bool e.infoEnabled, e.directories.toJson]) := rfl
  have hname : DialectName.ofJson? (.ofString e.dialect.name) = some e.dialect :=
    DialectName.ofName?_name e.dialect
  rw [hfields] at h
  obtain ⟨values, hvalues, hrecord⟩ := Json.asRecord?_of_reordered (by decide) rfl h
  match values, hvalues with
  | [_, _, _, _, _], .cons hdialect (.cons hrequired (.cons hforbidden (.cons hinfo
      (.cons hdirectories .nil)))) =>
    rw [ofJson?, hrecord, hdialect.eq_of_ofString, hinfo.eq_of_bool]
    simp [Json.optional?, hname, Pattern.asList?_of_reordered hrequired,
      Pattern.asList?_of_reordered hforbidden, Json.asBool?,
      Gcc.DirectoryOptions.ofJson?_of_reordered hdirectories]

theorem OutputSettings.ofJson?_of_reordered (o : OutputSettings) (h : Reordered o.toJson value) :
    ofJson? value = some o := by
  have hfields : o.toJson =
      .ofFields (fieldNames.zip [.ofString o.configuration, .ofString o.merge.name]) := rfl
  have hmode : MergeMode.ofJson? (.ofString o.merge.name) = some o.merge :=
    MergeMode.ofName?_name o.merge
  rw [hfields] at h
  obtain ⟨values, hvalues, hrecord⟩ := Json.asRecord?_of_reordered (by decide) rfl h
  match values, hvalues with
  | [_, _], .cons hconfiguration (.cons hmerge .nil) =>
    rw [ofJson?, hrecord, hconfiguration.eq_of_ofString, hmerge.eq_of_ofString]
    simp [Json.optional?, hmode]

namespace Settings

theorem schemaOfJson?_ofString (schema : String) :
    schemaOfJson? (.ofString schema) = if schema = supportedSchema then some schema else none := by
  by_cases hschema : schema = supportedSchema <;> simp [schemaOfJson?, Option.filter, hschema]

/-- The value written for settings with the supported schema is read as these settings, whatever
engines, patterns, directory options and output they have, and in whatever order the fields of the
objects in it are kept. With any other schema it is not read. -/
theorem settings_are_read_back (s : Settings) :
    (ofJson? s.toJson = if s.schema = supportedSchema then some s else none) ∧
    ∀ value, Reordered s.toJson value →
      ofJson? value = if s.schema = supportedSchema then some s else none := by
  have hfields : s.toJson = .ofFields (fieldNames.zip
      [.ofString s.schema, .array (s.engines.map EngineSettings.toJson), s.output.toJson]) := rfl
  have hreordered (value : Json) (h : Reordered s.toJson value) :
      ofJson? value = if s.schema = supportedSchema then some s else none := by
    rw [hfields] at h
    obtain ⟨values, hvalues, hrecord⟩ := Json.asRecord?_of_reordered (by decide) rfl h
    match values, hvalues with
    | [_, _, _], .cons hschema (.cons hengines (.cons houtput .nil)) =>
      have hlist := Json.asList?_of_reordered (fun e _ => e.ofJson?_of_reordered) hengines
      rw [ofJson?, hrecord, hschema.eq_of_ofString]
      by_cases hsupported : s.schema = supportedSchema
      · have hread : schemaOfJson? (.ofString s.schema) = some s.schema := by
          rw [schemaOfJson?_ofString, if_pos hsupported]
        rw [if_pos hsupported]
        simp [Json.required?, Json.optional?, hread, hlist, s.output.ofJson?_of_reordered houtput]
      · simp [Json.required?, schemaOfJson?_ofString, hsupported]
  exact ⟨hreordered s.toJson (.refl s.toJson), hreordered⟩

/-- One engine with patterns of both kinds and a keyword without paths. -/
def oneEngine : Settings where
  schema := supportedSchema
  engines := [{
    dialect := .gcc
    required := [.literal "", .regex "("]
    forbidden := [.literal "regex"]
    infoEnabled := false
    directories := (Gcc.DirectoryOptions.empty.set .system []).push .basePrefix "/opt" }]
  output := ⟨" ", .unique⟩

/-- The fields of its value, from the last to the first. -/
def oneEngineFields : List (Option String × Json) :=
  [(some "properties", oneEngine.output.toJson),
    (some "parsers", .array (oneEngine.engines.map EngineSettings.toJson)),
    (some "schema", .ofString supportedSchema)]

theorem reordered_oneEngine : Reordered oneEngine.toJson (.object oneEngineFields) := by
  have hvalues : oneEngine.toJson = .object oneEngineFields.reverse := rfl
  rw [hvalues]
  exact .object rfl (List.forall₂_same.mpr fun value _ => .refl value) oneEngineFields.reverse_perm

theorem settings_are_read_back_of_reversed_fields :
    Reordered oneEngine.toJson (.object oneEngineFields) ∧
    ofJson? (.object oneEngineFields) = some oneEngine ∧
    ofJson? { oneEngine with schema := "1.1" }.toJson = none := by
  have hschema : oneEngine.schema = supportedSchema := rfl
  refine ⟨reordered_oneEngine, ?_, ?_⟩
  · have h := (settings_are_read_back oneEngine).2 _ reordered_oneEngine
    rwa [if_pos hschema] at h
  · have h := (settings_are_read_back { oneEngine with schema := "1.1" }).1
    rwa [if_neg (by decide)] at h

end Settings

end CompilerLog
