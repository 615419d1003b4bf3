import YangBind.Directory.Index
import YangBind.Directory.MappedPath
import YangBind.Ir.DisplayName

/-! Compilation of directories. Directories, and the fields of each, are taken in ascending order
of their keys. A field whose status is switched off is passed over; every other field gets its
paths, its type and its name, in this order, and then its annotations. The first failure ends the
whole. -/

namespace YangBind

namespace IrOptions

/-- Whether the options leave out entries of this status. -/
def skips (o : IrOptions) : Status → Bool
  | .current => false
  | .deprecated => o.transformOptions.skipDeprecated
  | .obsolete => o.transformOptions.skipObsolete

def originOf {s : Schema} (o : IrOptions) (field : Node s) : String :=
  if o.pathOriginName ≠ "" then o.pathOriginName
  else if o.useModuleNameAsPathOrigin then field.module
  else ""

end IrOptions

namespace FieldKind

/-- Modules, choices and cases count as containers. -/
def ofEntryKind : EntryKind → FieldKind
  | .leaf => .leaf
  | .leafList => .leafList
  | .list => .list
  | .anyData => .anyData
  | .module | .container | .choice | .case => .container

end FieldKind

namespace Directory

variable {s : Schema}

/-- Whether a field is a key of the list that the directory stands for: one of its recorded key
leaves, or a key leaf in the list itself. -/
def isKey (d : Directory) (list field : Node s) : Bool :=
  (d.keyElems.any fun keyElems => keyElems.contains field.id) ||
    (list.entry.isList && field.dataParent?.any (·.id == list.id) &&
      list.entry.keys.contains field.name)

def shadowPaths (s : Schema) (d : Directory) (key : String) (opts : IrOptions) :
    Except BindError (List MappedPath) :=
  if opts.shadowSchemaPaths then d.mappedPaths s key opts.compressPaths .shadow opts.pathMode
  else .ok []

end Directory

namespace SchemaFacts

def ofNode {s : Schema} (opts : IrOptions) (n : Node s) : SchemaFacts where
  name := n.name
  defaults := n.entry.defaults
  belongingModule := n.module
  rootElementModule := n.rootModule
  definingModule := n.entry.definedBy
  path := n.dataPath.render
  schemaPath := n.schemaPath.render
  leafrefTargetPath := n.leafrefTarget?.map (·.dataPath.render)
  presenceStatement := n.entry.presence
  description := n.entry.description
  orderedByUser := n.entry.orderedByUser
  configFalse := !n.isConfig
  origin := opts.originOf n

end SchemaFacts

namespace Mapper

variable {s : Schema}

/-- The type of a field: only leaves and leaf-lists have one, and keys have one of their own sort.
-/
def fieldType (m : Mapper) (opts : IrOptions) (d : Directory) (node field : Node s) :
    Traced (Option MappedType) :=
  match FieldKind.ofEntryKind field.kind with
  | .leaf | .leafList =>
    if d.isKey node field then m.askKeyLeafType field opts else m.askLeafType field opts
  | .container | .list | .anyData => pure none

def compileField (m : Mapper) (opts : IrOptions) (d : Directory) (node : Node s) (key : String)
    (field : Node s) : Traced CompiledField := do
  let mapped ← d.mappedPaths s key opts.compressPaths .primary opts.pathMode
  let shadow ← d.shadowPaths s key opts
  let langType ← m.fieldType opts d node field
  let name ← m.askFieldName field
  let bare : CompiledField := {
    name
    facts := .ofNode opts field
    kind := .ofEntryKind field.kind
    langType
    mappedPaths := mapped.map MappedPath.path
    mappedPathModules := mapped.map MappedPath.modules
    shadowMappedPaths := shadow.map MappedPath.path
    shadowMappedPathModules := shadow.map MappedPath.modules
    flags := .empty }
  let flags ← m.askFieldFlags bare field
  return { bare with flags }

/-- The compiled fields by key, without those that the options leave out. -/
def compileFields (m : Mapper) (opts : IrOptions) (d : Directory) (node : Node s) :
    Traced (NameMap CompiledField) := do
  let fields ← Traced.collect (fun (key, id) => do
    let field ← s.require id
    if opts.skips field.entry.status then return []
    let compiled ← m.compileField opts d node key field
    return [(key, compiled)]) d.fields.entries
  return .ofList fields

def compileKeys (m : Mapper) (opts : IrOptions) (node : Node s) :
    Traced (Option (NameMap ListKey)) := do
  if !node.entry.isList then return none
  let keys ← Traced.collect (fun name => do
    match node.dataChild? name with
    | none => return []
    | some leaf =>
      let keyName ← m.askFieldName leaf
      let langType ← m.askKeyLeafType leaf opts
      return [(name, { name := keyName, langType : ListKey })]) node.entry.keys
  return some (.ofList keys)

/-- The compiled directory, with display names free of collisions. -/
def compileDirectory (m : Mapper) (s : Schema) (opts : IrOptions) (d : Directory) :
    Traced CompiledDirectory := do
  let node ← s.require d.entry
  let fields ← m.compileFields opts d node
  let packageName ←
    m.askPackageName node opts.transformOptions.compressBehaviour opts.nestedDirectories
  let listKeys ← m.compileKeys opts node
  let parsed : CompiledDirectory := {
    name := d.name
    kind := if node.entry.isList then .list else .container
    path := d.path.render
    schemaPath := node.dataPath.render
    packageName
    fields
    listKeys
    isFakeRoot := d.isFakeRoot
    belongingModule := node.module
    rootElementModule := node.rootModule
    definingModule := node.entry.definedBy
    telemetryAtomic := d.telemetryAtomic
    compressedTelemetryAtomic := d.compressedTelemetryAtomic
    configFalse := !node.isConfig }
  return parsed.rename

/-- Every directory compiled, by the same keys, with the questions put to the mapper. -/
def compileTraced (m : Mapper) (s : Schema) (directories : NameMap Directory)
    (opts : IrOptions) : Traced (NameMap CompiledDirectory) := do
  let compiled ← Traced.collect (fun (path, d) => do
    let parsed ← m.compileDirectory s opts d
    return [(path, parsed)]) directories.entries
  return .ofList compiled

/-- Indexes and compiles the directories. A conflict of names comes before any other failure. -/
def generateTraced (m : Mapper) (s : Schema) (directories : NameMap Directory)
    (opts : IrOptions) : Traced Ir := do
  let index ← DirectoryIndex.ofDirectories (some directories)
  let compiled ← m.compileTraced s directories opts
  return ⟨index.orderedNames, compiled⟩

def compile (m : Mapper) (s : Schema) (directories : NameMap Directory) (opts : IrOptions) :
    Except BindError (NameMap CompiledDirectory) :=
  (m.compileTraced s directories opts).outcome

def generate (m : Mapper) (s : Schema) (directories : NameMap Directory) (opts : IrOptions) :
    Except BindError Ir :=
  (m.generateTraced s directories opts).outcome

end Mapper

end YangBind
