import YangBind.Directory.Basic

/-! The paths that the fields of a directory are reached by. Every segment comes with the module
that instantiates it, so that nodes brought in by an `augment` keep their owner. A key of a list
that lies in a folded container has a second path, its alias: the bare name of the key. -/

namespace YangBind

/-- A path, with the modules of its segments beside it. -/
structure MappedPath where
  path : SchemaPath
  modules : List String
  deriving DecidableEq

namespace Schema

/-- The node at a place that a directory names. -/
def require (s : Schema) (id : EntryId) : Except BindError (Node s) :=
  match s.node? id with
  | some n => .ok n
  | none => .error (.unknownEntry id)

/-- Whether one of the entries is the node at `path`. The search ends there, so that only the
entries before it have to exist. -/
def anyAt (s : Schema) (path : SchemaPath) : List EntryId → Except BindError Bool
  | [] => .ok false
  | id :: rest =>
    match s.require id with
    | .error e => .error e
    | .ok n => if n.schemaPath = path then .ok true else s.anyAt path rest

end Schema

namespace Directory

variable {s : Schema}

/-- The node of a field on a branch. Not every field has a shadow, but every field asked for must be
there, and its node must lie strictly below the directory. -/
def locate (s : Schema) (d : Directory) (key : String) (b : Branch) :
    Except BindError (Option (Node s)) :=
  match (d.branch b).find? key with
  | none =>
    match b with
    | .shadow => .ok none
    | .primary => .error (.missingField key d.name)
  | some id =>
    match s.require id with
    | .error e => .error e
    | .ok n =>
      if n.schemaPath.isBelow d.path then .ok (some n)
      else .error (.invalidPath n.schemaPath d.path)

/-- The path of a node below the directory. From the module boundary it has no module segment. -/
def pathTo (d : Directory) (mode : PathMode) (n : Node s) : MappedPath :=
  match mode with
  | .absolute => ⟨(n.schemaPath.drop 2).fromBoundary, "" :: n.pathModules.drop 2⟩
  | .relative => ⟨n.schemaPath.drop d.path.length, n.pathModules.drop d.path.length⟩

def fieldPath? (s : Schema) (d : Directory) (key : String) (b : Branch) (mode : PathMode) :
    Except BindError (Option SchemaPath) :=
  (d.locate s key b).map fun found => found.map fun n => (d.pathTo mode n).path

/-- The alias of a key leaf: its bare name, as if the leaf stood in the list itself. -/
def aliasOf (d : Directory) (mode : PathMode) (n : Node s) : MappedPath :=
  match mode with
  | .relative => ⟨⟨[n.name]⟩, [n.module]⟩
  | .absolute => ⟨((d.path.drop 2).child n.name).fromBoundary,
      "" :: ((n.pathModules.take d.path.length).drop 2 ++ [n.module])⟩

/-- The alias of a field, if the directory is a list, the field's primary leaf lies at least two
steps below it and that leaf is one of the list's keys. -/
def listKeyAlias? (s : Schema) (d : Directory) (key : String) (mode : PathMode) :
    Except BindError (Option MappedPath) :=
  match d.keyElems, d.fields.contains key with
  | some keyElems, true => do
    match ← d.locate s key .primary with
    | none => return none
    | some n =>
      if (d.pathTo .relative n).path.length < 2 then return none
      else if ← s.anyAt n.schemaPath keyElems then return some (d.aliasOf mode n)
      else return none
  | _, _ => .ok none

/-- Every path of a field on a branch: its own, and with folded containers the alias of its primary
leaf. A branch without the field has no paths. -/
def mappedPaths (s : Schema) (d : Directory) (key : String) (compress : Bool) (b : Branch)
    (mode : PathMode) : Except BindError (List MappedPath) := do
  match ← d.locate s key b with
  | none => return []
  | some n =>
    let keyAlias ← if compress then d.listKeyAlias? s key mode else .ok none
    return d.pathTo mode n :: keyAlias.toList

end Directory

end YangBind
