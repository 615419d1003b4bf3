import YangBind.Schema.Error
import YangBind.Schema.PathExpr

/-! Schemas under construction. A draft grows by modules and by entries below the entries it has; a
step that is refused leaves no trace. At the end the draft is checked once: every list key must name
a data child and every leafref must lead somewhere. -/

namespace YangBind

/-- What is said of an entry when it is added. -/
structure EntrySpec where
  name : String
  kind : EntryKind
  status : Status := .current
  /-- The instantiating module; the parent's one unless given. -/
  module : Option String := none
  definingModule : Option String := none
  leafType : Option LeafType := none
  keys : List String := []
  defaults : List String := []
  description : Option String := none
  config : Option Bool := none
  presence : Option String := none
  orderedByUser : Bool := false
  deriving DecidableEq

namespace EntrySpec

def container (name : String) : EntrySpec := { name, kind := .container }

def list (name : String) (keys : List String) : EntrySpec := { name, kind := .list, keys }

def leaf (name typeName : String) : EntrySpec :=
  { name, kind := .leaf, leafType := some (.named typeName) }

def leafList (name typeName : String) : EntrySpec :=
  { name, kind := .leafList, leafType := some (.named typeName) }

def leafref (name path : String) : EntrySpec :=
  { name, kind := .leaf, leafType := some (.leafref path) }

def choice (name : String) : EntrySpec := { name, kind := .choice }

def case (name : String) : EntrySpec := { name, kind := .case }

def anyData (name : String) : EntrySpec := { name, kind := .anyData }

def toEntry (spec : EntrySpec) (parent : EntryId) (parentModule : String) : Entry where
  name := spec.name
  kind := spec.kind
  parent := some parent
  children := []
  status := spec.status
  module := spec.module.getD parentModule
  definingModule := spec.definingModule
  leafType := spec.leafType
  keys := spec.keys
  defaults := spec.defaults
  description := spec.description
  config := spec.config
  presence := spec.presence
  orderedByUser := spec.orderedByUser

end EntrySpec

namespace Entry

def ofModule (name : String) : Entry where
  name := name
  kind := .module
  parent := none
  children := []
  status := .current
  module := name
  definingModule := none
  leafType := none
  keys := []
  defaults := []
  description := none
  config := none
  presence := none
  orderedByUser := false

def addChild (e : Entry) (child : EntryId) : Entry := { e with children := e.children ++ [child] }

end Entry

namespace Schema

variable {s : Schema}

inductive Step
  | module (name : String)
  | add (parent : EntryId) (spec : EntrySpec)
  deriving DecidableEq

/-- What is wrong with a node: the first of its keys that names no data child, or else a leafref
that leads nowhere. -/
def fault? (n : Node s) : Option SchemaError :=
  match n.entry.keys.find? fun key => (n.dataChild? key).isNone with
  | some key => some (.missingKey n.schemaPath key)
  | none =>
    match n.entry.leafrefPath? with
    | some target =>
      if n.leafrefTarget?.isNone then some (.unresolvedLeafref n.schemaPath target) else none
    | none => none

/-- The first fault in order of places. -/
def firstFault? (s : Schema) : Option SchemaError := s.nodes.findSome? fault?

end Schema

/-- A schema that may still grow and has not been checked. -/
structure Draft where
  schema : Schema
  deriving DecidableEq, Inhabited

namespace Draft

open Schema (Step)

def empty : Draft := ⟨.empty⟩

def nextId (d : Draft) : EntryId := .ofIndex d.schema.size

def addModule (d : Draft) (name : String) : Except SchemaError (EntryId × Draft) :=
  let s := d.schema
  if s.moduleIndex.contains name then .error (.duplicateModule name)
  else
    let id := d.nextId
    .ok (id, ⟨{
      entries := s.entries.push (.ofModule name)
      modules := s.modules ++ [id]
      moduleIndex := s.moduleIndex.insert name id }⟩)

/-- Adds an entry as the last child of `parent`. -/
def add (d : Draft) (parent : EntryId) (spec : EntrySpec) :
    Except SchemaError (EntryId × Draft) :=
  let s := d.schema
  match s.entry? parent with
  | none => .error (.unknownEntry parent)
  | some above =>
    if !above.kind.isDirectory then .error (.notADirectory above.name above.kind spec.name)
    else if above.children.any fun c => (s.entry? c).any (·.name == spec.name) then
      .error (.duplicateChild above.name spec.name)
    else
      let id := d.nextId
      let grown := s.entries.push (spec.toEntry parent above.module)
      .ok (id, ⟨{ s with entries := grown.modify parent.index (·.addChild id) }⟩)

def step (d : Draft) : Step → Except SchemaError (EntryId × Draft)
  | .module name => d.addModule name
  | .add parent spec => d.add parent spec

/-- Takes every step in turn and passes over those that are refused; the results are the ids of the
new entries and the refusals. -/
def run (d : Draft) : List Step → List (Except SchemaError EntryId) × Draft
  | [] => ([], d)
  | step :: rest =>
    match d.step step with
    | .ok (id, d') =>
      let (results, final) := d'.run rest
      (.ok id :: results, final)
    | .error e =>
      let (results, final) := d.run rest
      (.error e :: results, final)

def finish (d : Draft) : Except SchemaError Schema :=
  match d.schema.firstFault? with
  | some e => .error e
  | none => .ok d.schema

end Draft

namespace Schema

/-- The schema that a list of steps builds; the first refusal or fault counts. -/
def build (steps : List Step) : Except SchemaError Schema := do
  let d ← steps.foldlM (fun (d : Draft) step => return (← d.step step).2) Draft.empty
  d.finish

end Schema

end YangBind
