import YangBind.NameMap
import YangBind.SchemaPath

/-! The intermediate representation: what an emitter of code gets to know of each directory and of
each of its fields. -/

namespace YangBind

abbrev Flags := NameMap String

/-- A schema type in terms of the target language. -/
structure MappedType where
  nativeType : String
  isEnumerated : Bool := false
  zeroValue : String
  defaultValue : Option String := none
  deriving DecidableEq, Inhabited

/-- An enumeration found in the schema: its generated name, and the type or typedef it comes from.
-/
structure EnumeratedType where
  name : String
  typeName : String
  values : List String
  deriving DecidableEq, Inhabited

inductive DirectoryKind
  | container | list
  deriving DecidableEq, Inhabited

inductive FieldKind
  | leaf | leafList | container | list | anyData
  deriving DecidableEq, Inhabited

structure ListKey where
  name : String
  langType : Option MappedType
  deriving DecidableEq, Inhabited

/-- What the schema says of a field, whatever the target language is. -/
structure SchemaFacts where
  name : String
  defaults : List String
  /-- The instantiating module. -/
  belongingModule : String
  /-- The module of the top-level node above the field. -/
  rootElementModule : String
  definingModule : String
  /-- The path without the module's segment. -/
  path : String
  /-- The path with the module's segment. -/
  schemaPath : String
  leafrefTargetPath : Option String
  presenceStatement : Option String
  description : Option String
  orderedByUser : Bool
  configFalse : Bool
  /-- Where the field's paths originate. -/
  origin : String
  deriving DecidableEq, Inhabited

/-- A field of a compiled directory. The lists of modules run parallel to the lists of paths. -/
structure CompiledField where
  name : String
  facts : SchemaFacts
  kind : FieldKind
  langType : Option MappedType
  mappedPaths : List SchemaPath
  mappedPathModules : List (List String)
  shadowMappedPaths : List SchemaPath
  shadowMappedPathModules : List (List String)
  flags : Flags
  deriving DecidableEq, Inhabited

structure CompiledDirectory where
  name : String
  kind : DirectoryKind
  /-- The path with the module's segment. -/
  path : String
  /-- The path without the module's segment. -/
  schemaPath : String
  packageName : String
  fields : NameMap CompiledField
  /-- The emitted keys by key name, for lists. -/
  listKeys : Option (NameMap ListKey)
  isFakeRoot : Bool
  belongingModule : String
  rootElementModule : String
  definingModule : String
  telemetryAtomic : Bool
  compressedTelemetryAtomic : Bool
  configFalse : Bool
  deriving DecidableEq, Inhabited

/-- A whole compilation: the distinct directory names in ascending order, and the compiled
directories by path. -/
structure Ir where
  orderedNames : List String
  directories : NameMap CompiledDirectory
  deriving DecidableEq

namespace Ir

/-- The directory paths in the order of the directories' names, those of one name by path. -/
def orderedDirectoryPaths (ir : Ir) : List String :=
  (ir.directories.entries.mergeSort fun a b => a.2.name ≤ b.2.name).map Prod.fst

/-- The directory of this name, at the least path if there are several. -/
def directoryByName? (ir : Ir) (name : String) : Option CompiledDirectory :=
  ir.directories.values.find? (·.name == name)

end Ir

end YangBind
