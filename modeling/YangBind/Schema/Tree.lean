import YangBind.NameMap
import YangBind.Schema.Entry

/-! Schemas and their nodes. A schema is a table of entries that refer to one another by place; a
node is a place of the table together with the entry found there. A parent link counts only if it
points to an earlier place and a child link only if it points to a later one, so that walks up and
down end on every table; the tables that steps of construction build have no other links. -/

namespace YangBind

/-- A table of entries, with the roots of its modules in order of registration and by name. -/
structure Schema where
  entries : Array Entry
  modules : List EntryId
  moduleIndex : NameMap EntryId
  deriving DecidableEq

namespace Schema

def empty : Schema := ⟨#[], [], .empty⟩

instance : Inhabited Schema := ⟨empty⟩

def size (s : Schema) : Nat := s.entries.size

def isEmpty (s : Schema) : Bool := s.entries.isEmpty

def entry? (s : Schema) (i : EntryId) : Option Entry := s.entries[i.index]?

end Schema

/-- A place of the schema `s` and the entry found there. -/
structure Node (s : Schema) where
  id : EntryId
  entry : Entry
  entry?_id : s.entry? id = some entry
  deriving DecidableEq

namespace Schema

variable {s : Schema}

def node? (s : Schema) (i : EntryId) : Option (Node s) :=
  match h : s.entry? i with
  | some e => some ⟨i, e, h⟩
  | none => none

theorem node?_eq_some_iff {i : EntryId} {n : Node s} : s.node? i = some n ↔ n.id = i := by
  obtain ⟨j, e, hj⟩ := n
  unfold node?
  split
  case h_1 e' h =>
    constructor
    · intro heq
      simp only [Option.some.injEq, Node.mk.injEq] at heq
      exact heq.1.symm
    · rintro rfl
      have : e' = e := Option.some.inj (h.symm.trans hj)
      subst this
      rfl
  case h_2 h =>
    constructor
    · intro heq
      simp at heq
    · rintro rfl
      simp [h] at hj

theorem node?_eq_none_iff {i : EntryId} : s.node? i = none ↔ s.size ≤ i.index := by
  have h : s.node? i = none ↔ s.entry? i = none := by
    unfold node?
    split <;> simp [*]
  rw [h]
  exact Array.getElem?_eq_none_iff

/-- All nodes, in order of their places. -/
def nodes (s : Schema) : List (Node s) :=
  (List.range s.size).filterMap fun n => s.node? (.ofIndex n)

/-- The module roots, in order of registration. -/
def moduleNodes (s : Schema) : List (Node s) := s.modules.filterMap s.node?

def module? (s : Schema) (name : String) : Option (Node s) :=
  (s.moduleIndex.find? name).bind s.node?

end Schema

namespace Node

variable {s : Schema}

@[ext] theorem ext {m n : Node s} (h : m.id = n.id) : m = n :=
  Option.some.inj ((Schema.node?_eq_some_iff.2 h).symm.trans (Schema.node?_eq_some_iff.2 rfl))

theorem id_inj {m n : Node s} : m.id = n.id ↔ m = n := ⟨ext, congrArg id⟩

theorem index_lt_size (n : Node s) : n.id.index < s.size := by
  have h := n.entry?_id
  unfold Schema.entry? at h
  exact (Array.getElem?_eq_some_iff.1 h).1

theorem mem_nodes (n : Node s) : n ∈ s.nodes := by
  refine List.mem_filterMap.2 ⟨n.id.index, List.mem_range.2 n.index_lt_size, ?_⟩
  rw [EntryId.ofIndex_index, Schema.node?_eq_some_iff]

def name (n : Node s) : String := n.entry.name

def kind (n : Node s) : EntryKind := n.entry.kind

def module (n : Node s) : String := n.entry.module

/-- Whether data paths show the node, as they show all but choices and cases. -/
def isData (n : Node s) : Bool := !n.kind.isChoiceOrCase

def parent? (n : Node s) : Option (Node s) :=
  n.entry.parent.bind fun i => if i.index < n.id.index then s.node? i else none

def children (n : Node s) : List (Node s) :=
  n.entry.children.filterMap fun i => if n.id.index < i.index then s.node? i else none

/-- The child of this name, a choice or case included. -/
def child? (n : Node s) (name : String) : Option (Node s) :=
  n.children.find? (·.name == name)

theorem index_parent?_lt {n p : Node s} (h : n.parent? = some p) : p.id.index < n.id.index := by
  obtain ⟨i, _, h⟩ := Option.bind_eq_some_iff.1 h
  split at h
  case isTrue hlt => rwa [Schema.node?_eq_some_iff.1 h]
  case isFalse => simp at h

theorem index_lt_of_mem_children {n c : Node s} (h : c ∈ n.children) :
    n.id.index < c.id.index := by
  obtain ⟨i, _, h⟩ := List.mem_filterMap.1 h
  split at h
  case isTrue hlt => rwa [Schema.node?_eq_some_iff.1 h]
  case isFalse => simp at h

end Node

end YangBind
