import YangBind.SchemaPath

/-! The nodes of a schema as data: what kind of statement a node comes from, its type if it is a
leaf, and its links to the other nodes. -/

namespace YangBind

/-- The place of an entry in its schema. -/
structure EntryId where
  raw : UInt32
  deriving DecidableEq, Inhabited

namespace EntryId

def index (i : EntryId) : Nat := i.raw.toNat

def ofIndex (n : Nat) : EntryId := ⟨UInt32.ofNat n⟩

theorem index_ofIndex {n : Nat} (h : n < UInt32.size) : (ofIndex n).index = n :=
  UInt32.toNat_ofNat_of_lt' h

@[simp] theorem ofIndex_index (i : EntryId) : ofIndex i.index = i := by
  simp [index, ofIndex]

theorem index_inj {i j : EntryId} : i.index = j.index ↔ i = j := by
  refine ⟨fun h => ?_, fun h => h ▸ rfl⟩
  rw [← ofIndex_index i, h, ofIndex_index]

instance : ToString EntryId := ⟨fun i => toString i.index⟩

end EntryId

inductive EntryKind
  | module | container | list | leaf | leafList | choice | case | anyData
  deriving DecidableEq, Inhabited

namespace EntryKind

/-- Choices and cases do not appear in data paths. -/
def isChoiceOrCase : EntryKind → Bool
  | .choice | .case => true
  | _ => false

def isDirectory : EntryKind → Bool
  | .module | .container | .list | .choice | .case => true
  | _ => false

def keyword : EntryKind → String
  | .module => "module"
  | .container => "container"
  | .list => "list"
  | .leaf => "leaf"
  | .leafList => "leaf-list"
  | .choice => "choice"
  | .case => "case"
  | .anyData => "anydata"

instance : ToString EntryKind := ⟨keyword⟩

end EntryKind

inductive Status
  | current | deprecated | obsolete
  deriving DecidableEq, Inhabited

/-- The type of a leaf or leaf-list: a named type, or a reference to another leaf by a path
expression. -/
inductive LeafType
  | named (name : String)
  | leafref (path : String)
  deriving DecidableEq, Inhabited

namespace LeafType

def kindName : LeafType → String
  | .named name => name
  | .leafref _ => "leafref"

def leafrefPath? : LeafType → Option String
  | .named _ => none
  | .leafref path => some path

end LeafType

/-- One node of a schema. `module` is the module that instantiates the node: for a node brought in
by an `augment`, the augmenting one. -/
structure Entry where
  name : String
  kind : EntryKind
  parent : Option EntryId
  children : List EntryId
  status : Status
  module : String
  /-- The module whose text defines the node, when it is another than `module`. -/
  definingModule : Option String
  leafType : Option LeafType
  keys : List String
  defaults : List String
  description : Option String
  /-- The node's own `config` statement; without one the parent's value holds. -/
  config : Option Bool
  presence : Option String
  orderedByUser : Bool
  deriving DecidableEq, Inhabited

namespace Entry

def isLeaf (e : Entry) : Bool := e.kind == .leaf

def isLeafList (e : Entry) : Bool := e.kind == .leafList

def isList (e : Entry) : Bool := e.kind == .list

def isContainer (e : Entry) : Bool := e.kind == .container

def isDeprecated (e : Entry) : Bool := e.status == .deprecated

def isObsolete (e : Entry) : Bool := e.status == .obsolete

/-- The defining module, or else the instantiating one. -/
def definedBy (e : Entry) : String := e.definingModule.getD e.module

def leafrefPath? (e : Entry) : Option String := e.leafType.bind LeafType.leafrefPath?

end Entry

end YangBind
