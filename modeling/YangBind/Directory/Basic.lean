import YangBind.Mapper.Basic

/-! Directories: groups of schema nodes that become one generated type each. A directory knows the
node it stands for, the fields it groups and, after folding, the shadows of those fields: the
leaves of the branch that is not primary. -/

namespace YangBind

structure Directory where
  name : String
  /-- The node that the directory stands for. -/
  entry : EntryId
  path : SchemaPath
  fields : NameMap EntryId := .empty
  /-- The shadows of the fields, by the same keys. -/
  shadowed : NameMap EntryId := .empty
  /-- The key leaves, for lists. -/
  keyElems : Option (List EntryId) := none
  isFakeRoot : Bool := false
  telemetryAtomic : Bool := false
  compressedTelemetryAtomic : Bool := false
  deriving DecidableEq

/-- Of a field that exists twice, the leaf that counts and its shadow. -/
inductive Branch
  | primary | shadow
  deriving DecidableEq

namespace Directory

variable {s : Schema}

def isList (d : Directory) : Bool := d.keyElems.isSome

/-- The directory for a node before it gets fields. The mapper names it, and lists get their key
leaves, with leafrefs followed. -/
def forNode (m : Mapper) (n : Node s) (compress : CompressBehaviour) : Traced Directory := do
  let name ← m.askDirectoryName n compress
  return {
    name
    entry := n.id
    path := n.schemaPath
    keyElems := if n.entry.isList then some (n.keyLeaves.map (·.id)) else none }

def withField (d : Directory) (key : String) (entry : EntryId) : Directory :=
  { d with fields := d.fields.insert key entry }

def withShadowed (d : Directory) (key : String) (entry : EntryId) : Directory :=
  { d with shadowed := d.shadowed.insert key entry }

def branch (d : Directory) : Branch → NameMap EntryId
  | .primary => d.fields
  | .shadow => d.shadowed

def orderedFieldNames (d : Directory) : List String := d.fields.keys

end Directory

end YangBind
