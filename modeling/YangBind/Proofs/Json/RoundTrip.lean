import YangBind.Json.Ir
import YangBind.Proofs.Json.Record

/-! What is written as JSON is read back. This holds of entries, paths, options and all that the
intermediate representation is made of, for every content. Options are read from any part of what is
written for them: the fields that have been left out have their defaults, and the others the values
that were written. -/

namespace YangBind

open JsonCodec (encode decode RoundTrips roundTrips lawful_ofTags)

instance : LawfulJsonCodec EntryId where
  encode_ne_null _ := nofun
  decode_of_reorders h := congrArg (Option.map EntryId.mk) (decode_of_reorders h)

instance : LawfulJsonCodec SchemaPath where
  encode_ne_null _ := nofun
  decode_of_reorders h :=
    JsonRecord.bind_ofJson? h (by simp) fun _ hr => hr.bind_required rfl rfl

instance : LawfulJsonCodec EntryKind := lawful_ofTags fun k => by cases k <;> rfl

instance : LawfulJsonCodec Status := lawful_ofTags fun k => by cases k <;> rfl

instance : LawfulJsonCodec LeafType where
  encode_ne_null t := by cases t <;> exact nofun
  decode_of_reorders {t j} h := by
    cases t with
    | named name =>
      obtain ⟨v, rfl, hv⟩ := h.exists_field
      exact congrArg (Option.map LeafType.named) (decode_of_reorders hv)
    | leafref path =>
      obtain ⟨v, rfl, hv⟩ := h.exists_field
      obtain ⟨w, rfl, hw⟩ := hv.exists_field
      exact congrArg (Option.map LeafType.leafref) (decode_of_reorders hw)

instance : LawfulJsonCodec Entry where
  encode_ne_null _ := nofun
  decode_of_reorders h :=
    JsonRecord.bind_ofJson? h (by simp) fun _ hr =>
      hr.bind_required rfl <| hr.bind_required rfl <| hr.bind_optional rfl <|
      hr.bind_required rfl <| hr.bind_required rfl <| hr.bind_required rfl <|
      hr.bind_optional rfl <| hr.bind_optional rfl <| hr.bind_required rfl <|
      hr.bind_required rfl <| hr.bind_optional rfl <| hr.bind_optional rfl <|
      hr.bind_optional rfl <| hr.bind_required rfl rfl

instance : LawfulJsonCodec CompressBehaviour := lawful_ofTags fun c => by cases c <;> rfl

instance : LawfulJsonCodec MappedType where
  encode_ne_null _ := nofun
  decode_of_reorders h :=
    JsonRecord.bind_ofJson? h (by simp) fun _ hr =>
      hr.bind_required rfl <| hr.bind_required rfl <| hr.bind_required rfl <|
      hr.bind_optional rfl rfl

instance : LawfulJsonCodec EnumeratedType where
  encode_ne_null _ := nofun
  decode_of_reorders h :=
    JsonRecord.bind_ofJson? h (by simp) fun _ hr =>
      hr.bind_required rfl <| hr.bind_required rfl <| hr.bind_required rfl rfl

instance : LawfulJsonCodec ListKey where
  encode_ne_null _ := nofun
  decode_of_reorders h :=
    JsonRecord.bind_ofJson? h (by simp) fun _ hr =>
      hr.bind_required rfl <| hr.bind_optional rfl rfl

instance : LawfulJsonCodec DirectoryKind := lawful_ofTags fun k => by cases k <;> rfl

instance : LawfulJsonCodec FieldKind := lawful_ofTags fun k => by cases k <;> rfl

instance : LawfulJsonCodec SchemaFacts where
  encode_ne_null _ := nofun
  decode_of_reorders h :=
    JsonRecord.bind_ofJson? h (by simp) fun _ hr =>
      hr.bind_required rfl <| hr.bind_required rfl <| hr.bind_required rfl <|
      hr.bind_required rfl <| hr.bind_required rfl <| hr.bind_required rfl <|
      hr.bind_required rfl <| hr.bind_optional rfl <| hr.bind_optional rfl <|
      hr.bind_optional rfl <| hr.bind_required rfl <| hr.bind_required rfl <|
      hr.bind_required rfl rfl

instance : LawfulJsonCodec CompiledField where
  encode_ne_null _ := nofun
  decode_of_reorders h :=
    JsonRecord.bind_ofJson? h (by simp) fun _ hr =>
      hr.bind_required rfl <| hr.bind_required rfl <| hr.bind_required rfl <|
      hr.bind_optional rfl <| hr.bind_required rfl <| hr.bind_required rfl <|
      hr.bind_required rfl <| hr.bind_required rfl <| hr.bind_required rfl rfl

instance : LawfulJsonCodec CompiledDirectory where
  encode_ne_null _ := nofun
  decode_of_reorders h :=
    JsonRecord.bind_ofJson? h (by simp) fun _ hr =>
      hr.bind_required rfl <| hr.bind_required rfl <| hr.bind_required rfl <|
      hr.bind_required rfl <| hr.bind_required rfl <| hr.bind_required rfl <|
      hr.bind_optional rfl <| hr.bind_required rfl <| hr.bind_required rfl <|
      hr.bind_required rfl <| hr.bind_required rfl <| hr.bind_required rfl <|
      hr.bind_required rfl <| hr.bind_required rfl rfl

namespace TransformOptions

/-- The options with the defaults in the fields that are written under the names `omitted`. -/
def withDefaults (o : TransformOptions) (omitted : String → Bool) : TransformOptions :=
  let default : TransformOptions := {}
  { compressBehaviour :=
      if omitted "compress_behaviour" then default.compressBehaviour else o.compressBehaviour
    skipDeprecated := if omitted "skip_deprecated" then default.skipDeprecated else o.skipDeprecated
    skipObsolete := if omitted "skip_obsolete" then default.skipObsolete else o.skipObsolete }

theorem decode_without {o : TransformOptions} {omitted : String → Bool} {j : Json}
    (h : ((encode o).without omitted).Reorders j) : decode j = some (o.withDefaults omitted) :=
  JsonRecord.bind_ofJson?_without h (by simp) fun _ hr =>
    hr.bind_orDefault rfl decode_of_reorders <| hr.bind_orDefault rfl decode_of_reorders <|
    hr.bind_orDefault rfl decode_of_reorders rfl

instance : LawfulJsonCodec TransformOptions where
  encode_ne_null _ := nofun
  decode_of_reorders {o _} h := decode_without ((encode o).without_nothing ▸ h)

end TransformOptions

namespace IrOptions

/-- What is written for the options, less the fields of the names `omitted`; what is written in it
for the options of the transformation is less the fields of the names `nested`. -/
def encodePartly (o : IrOptions) (omitted nested : String → Bool) : Json :=
  ((encode o).inField "transformation_options" (·.without nested)).without omitted

theorem encodePartly_nothing (o : IrOptions) :
    o.encodePartly (fun _ => false) (fun _ => false) = encode o := by
  rw [encodePartly, Json.without_nothing, Json.inField_eq_self Json.without_nothing]

/-- The options with the defaults in the fields that are written under the names `omitted`, and in
the options of the transformation under the names `nested`. -/
def withDefaults (o : IrOptions) (omitted nested : String → Bool) : IrOptions :=
  let default : IrOptions := {}
  { pathOriginName :=
      if omitted "path_origin_name" then default.pathOriginName else o.pathOriginName
    useModuleNameAsPathOrigin :=
      if omitted "use_module_name_as_path_origin" then default.useModuleNameAsPathOrigin
      else o.useModuleNameAsPathOrigin
    transformOptions :=
      if omitted "transformation_options" then default.transformOptions
      else o.transformOptions.withDefaults nested
    compressPaths := if omitted "compress_paths" then default.compressPaths else o.compressPaths
    shadowSchemaPaths :=
      if omitted "shadow_schema_paths" then default.shadowSchemaPaths else o.shadowSchemaPaths
    absolutePaths := if omitted "absolute_paths" then default.absolutePaths else o.absolutePaths
    nestedDirectories :=
      if omitted "nested_directories" then default.nestedDirectories else o.nestedDirectories }

theorem decode_encodePartly {o : IrOptions} {omitted nested : String → Bool} {j : Json}
    (h : (o.encodePartly omitted nested).Reorders j) :
    decode j = some (o.withDefaults omitted nested) :=
  JsonRecord.bind_ofJson?_without h (by simp) fun _ hr =>
    hr.bind_orDefault rfl decode_of_reorders <| hr.bind_orDefault rfl decode_of_reorders <|
    hr.bind_orDefault rfl TransformOptions.decode_without <|
    hr.bind_orDefault rfl decode_of_reorders <| hr.bind_orDefault rfl decode_of_reorders <|
    hr.bind_orDefault rfl decode_of_reorders <| hr.bind_orDefault rfl decode_of_reorders rfl

instance : LawfulJsonCodec IrOptions where
  encode_ne_null _ := nofun
  decode_of_reorders {o _} h := decode_encodePartly (o.encodePartly_nothing ▸ h)

end IrOptions

/-- A directory with two fields. -/
def twoFields : CompiledDirectory :=
  { (default : CompiledDirectory) with
    name := "D"
    fields := .ofList [("a", default), ("b", { (default : CompiledField) with name := "B" })] }

/-- Every value is read back from what is written for it. Of options any fields may be left out,
those of the transformation in them too: each that is left out has its default. -/
theorem roundTrips_and_defaults :
    (RoundTrips Entry ∧ RoundTrips SchemaPath ∧ RoundTrips MappedType ∧
      RoundTrips EnumeratedType ∧ RoundTrips ListKey ∧ RoundTrips SchemaFacts ∧
      RoundTrips CompiledField ∧ RoundTrips CompiledDirectory ∧ RoundTrips IrOptions) ∧
    ∀ (o : IrOptions) (omitted nested : String → Bool),
      decode (o.encodePartly omitted nested) = some (o.withDefaults omitted nested) :=
  ⟨⟨roundTrips _, roundTrips _, roundTrips _, roundTrips _, roundTrips _, roundTrips _,
    roundTrips _, roundTrips _, roundTrips _⟩, fun _ _ _ => IrOptions.decode_encodePartly (.refl _)⟩

/-- The two fields are written in the other order, and of the options two fields are left. -/
theorem roundTrips_and_defaults_twoFields :
    decode (.object [
      ("name", .text "D"),
      ("dir_type", .text "Container"),
      ("path", .text ""),
      ("schema_path", .text ""),
      ("package_name", .text ""),
      ("fields", .object [
        ("b", encode { (default : CompiledField) with name := "B" }),
        ("a", encode (default : CompiledField))]),
      ("list_keys", .null),
      ("is_fake_root", .bool false),
      ("belonging_module", .text ""),
      ("root_element_module", .text ""),
      ("defining_module", .text ""),
      ("telemetry_atomic", .bool false),
      ("compressed_telemetry_atomic", .bool false),
      ("config_false", .bool false)]) = some twoFields ∧
    decode (.object [
      ("path_origin_name", .text "o"),
      ("transformation_options", .object [("skip_obsolete", .bool true)])]) =
      some ({ pathOriginName := "o", transformOptions.skipObsolete := true } : IrOptions) := by
  obtain ⟨⟨-, -, -, -, -, -, -, hdirectory, -⟩, hoptions⟩ := roundTrips_and_defaults
  constructor
  · refine (hdirectory twoFields).2 _ (.of_field ?_ "fields" [_, _, _, _, _] _)
    exact .of_perm (.swap _ _ _)
      (JsonCodec.names_of_entries twoFields.fields ▸ NameMap.nodup_keys _)
  · exact hoptions
      { pathOriginName := "o"
        transformOptions := { skipDeprecated := true, skipObsolete := true }
        compressPaths := true }
      (fun name => name != "path_origin_name" && name != "transformation_options")
      (fun name => name != "skip_obsolete")

end YangBind
