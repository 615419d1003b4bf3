import YangBind.Json.Schema
import YangBind.Options
import YangBind.Ir.Basic

/-! The options and the intermediate representation as JSON. Options may leave fields out: each such
field has its default. -/

namespace YangBind

open JsonCodec (encode)

namespace CompressBehaviour

def tag : CompressBehaviour → String
  | .uncompressed => "Uncompressed"
  | .uncompressedExcludeDerivedState => "UncompressedExcludeDerivedState"
  | .preferIntendedConfig => "PreferIntendedConfig"
  | .preferOperationalState => "PreferOperationalState"
  | .excludeDerivedState => "ExcludeDerivedState"

instance : JsonCodec CompressBehaviour :=
  .ofTags [.uncompressed, .uncompressedExcludeDerivedState, .preferIntendedConfig,
    .preferOperationalState, .excludeDerivedState] tag

end CompressBehaviour

instance : JsonCodec TransformOptions where
  encode o := .object [
    ("compress_behaviour", encode o.compressBehaviour),
    ("skip_deprecated", encode o.skipDeprecated),
    ("skip_obsolete", encode o.skipObsolete)]
  decode j := do
    let r ← JsonRecord.ofJson? 3 j
    return {
      compressBehaviour := ← r.orDefault 0 "compress_behaviour" .uncompressed
      skipDeprecated := ← r.orDefault 1 "skip_deprecated" false
      skipObsolete := ← r.orDefault 2 "skip_obsolete" false }

instance : JsonCodec IrOptions where
  encode o := .object [
    ("path_origin_name", encode o.pathOriginName),
    ("use_module_name_as_path_origin", encode o.useModuleNameAsPathOrigin),
    ("transformation_options", encode o.transformOptions),
    ("compress_paths", encode o.compressPaths),
    ("shadow_schema_paths", encode o.shadowSchemaPaths),
    ("absolute_paths", encode o.absolutePaths),
    ("nested_directories", encode o.nestedDirectories)]
  decode j := do
    let r ← JsonRecord.ofJson? 7 j
    return {
      pathOriginName := ← r.orDefault 0 "path_origin_name" ""
      useModuleNameAsPathOrigin := ← r.orDefault 1 "use_module_name_as_path_origin" false
      transformOptions := ← r.orDefault 2 "transformation_options" {}
      compressPaths := ← r.orDefault 3 "compress_paths" false
      shadowSchemaPaths := ← r.orDefault 4 "shadow_schema_paths" false
      absolutePaths := ← r.orDefault 5 "absolute_paths" false
      nestedDirectories := ← r.orDefault 6 "nested_directories" false }

instance : JsonCodec MappedType where
  encode t := .object [
    ("native_type", encode t.nativeType),
    ("is_enumerated_value", encode t.isEnumerated),
    ("zero_value", encode t.zeroValue),
    ("default_value", encode t.defaultValue)]
  decode j := do
    let r ← JsonRecord.ofJson? 4 j
    return {
      nativeType := ← r.required 0 "native_type"
      isEnumerated := ← r.required 1 "is_enumerated_value"
      zeroValue := ← r.required 2 "zero_value"
      defaultValue := ← r.optional 3 "default_value" }

instance : JsonCodec EnumeratedType where
  encode t := .object [
    ("name", encode t.name),
    ("type_name", encode t.typeName),
    ("values", encode t.values)]
  decode j := do
    let r ← JsonRecord.ofJson? 3 j
    return {
      name := ← r.required 0 "name"
      typeName := ← r.required 1 "type_name"
      values := ← r.required 2 "values" }

instance : JsonCodec ListKey where
  encode k := .object [("name", encode k.name), ("lang_type", encode k.langType)]
  decode j := do
    let r ← JsonRecord.ofJson? 2 j
    return { name := ← r.required 0 "name", langType := ← r.optional 1 "lang_type" }

namespace DirectoryKind

def tag : DirectoryKind → String
  | .container => "Container"
  | .list => "List"

instance : JsonCodec DirectoryKind := .ofTags [.container, .list] tag

end DirectoryKind

namespace FieldKind

def tag : FieldKind → String
  | .leaf => "Leaf"
  | .leafList => "LeafList"
  | .container => "Container"
  | .list => "List"
  | .anyData => "AnyData"

instance : JsonCodec FieldKind := .ofTags [.leaf, .leafList, .container, .list, .anyData] tag

end FieldKind

instance : JsonCodec SchemaFacts where
  encode d := .object [
    ("name", encode d.name),
    ("defaults", encode d.defaults),
    ("belonging_module", encode d.belongingModule),
    ("root_element_module", encode d.rootElementModule),
    ("defining_module", encode d.definingModule),
    ("path", encode d.path),
    ("schema_path", encode d.schemaPath),
    ("leafref_target_path", encode d.leafrefTargetPath),
    ("presence_statement", encode d.presenceStatement),
    ("description", encode d.description),
    ("ordered_by_user", encode d.orderedByUser),
    ("config_false", encode d.configFalse),
    ("origin", encode d.origin)]
  decode j := do
    let r ← JsonRecord.ofJson? 13 j
    return {
      name := ← r.required 0 "name"
      defaults := ← r.required 1 "defaults"
      belongingModule := ← r.required 2 "belonging_module"
      rootElementModule := ← r.required 3 "root_element_module"
      definingModule := ← r.required 4 "defining_module"
      path := ← r.required 5 "path"
      schemaPath := ← r.required 6 "schema_path"
      leafrefTargetPath := ← r.optional 7 "leafref_target_path"
      presenceStatement := ← r.optional 8 "presence_statement"
      description := ← r.optional 9 "description"
      orderedByUser := ← r.required 10 "ordered_by_user"
      configFalse := ← r.required 11 "config_false"
      origin := ← r.required 12 "origin" }

instance : JsonCodec CompiledField where
  encode d := .object [
    ("name", encode d.name),
    ("yang_details", encode d.facts),
    ("node_type", encode d.kind),
    ("lang_type", encode d.langType),
    ("mapped_paths", encode d.mappedPaths),
    ("mapped_path_modules", encode d.mappedPathModules),
    ("shadow_mapped_paths", encode d.shadowMappedPaths),
    ("shadow_mapped_path_modules", encode d.shadowMappedPathModules),
    ("flags", encode d.flags)]
  decode j := do
    let r ← JsonRecord.ofJson? 9 j
    return {
      name := ← r.required 0 "name"
      facts := ← r.required 1 "yang_details"
      kind := ← r.required 2 "node_type"
      langType := ← r.optional 3 "lang_type"
      mappedPaths := ← r.required 4 "mapped_paths"
      mappedPathModules := ← r.required 5 "mapped_path_modules"
      shadowMappedPaths := ← r.required 6 "shadow_mapped_paths"
      shadowMappedPathModules := ← r.required 7 "shadow_mapped_path_modules"
      flags := ← r.required 8 "flags" }

instance : JsonCodec CompiledDirectory where
  encode d := .object [
    ("name", encode d.name),
    ("dir_type", encode d.kind),
    ("path", encode d.path),
    ("schema_path", encode d.schemaPath),
    ("package_name", encode d.packageName),
    ("fields", encode d.fields),
    ("list_keys", encode d.listKeys),
    ("is_fake_root", encode d.isFakeRoot),
    ("belonging_module", encode d.belongingModule),
    ("root_element_module", encode d.rootElementModule),
    ("defining_module", encode d.definingModule),
    ("telemetry_atomic", encode d.telemetryAtomic),
    ("compressed_telemetry_atomic", encode d.compressedTelemetryAtomic),
    ("config_false", encode d.configFalse)]
  decode j := do
    let r ← JsonRecord.ofJson? 14 j
    return {
      name := ← r.required 0 "name"
      kind := ← r.required 1 "dir_type"
      path := ← r.required 2 "path"
      schemaPath := ← r.required 3 "schema_path"
      packageName := ← r.required 4 "package_name"
      fields := ← r.required 5 "fields"
      listKeys := ← r.optional 6 "list_keys"
      isFakeRoot := ← r.required 7 "is_fake_root"
      belongingModule := ← r.required 8 "belonging_module"
      rootElementModule := ← r.required 9 "root_element_module"
      definingModule := ← r.required 10 "defining_module"
      telemetryAtomic := ← r.required 11 "telemetry_atomic"
      compressedTelemetryAtomic := ← r.required 12 "compressed_telemetry_atomic"
      configFalse := ← r.required 13 "config_false" }

end YangBind
