import YangBind.Schema.Tree

/-! The way down the data tree. The data children of a node are its children with every choice and
case replaced by its own data children, in document order; look-up by name takes the first. -/

namespace YangBind

namespace Node

variable {s : Schema}

/-- The children of `n` as data paths see them. -/
def dataChildren (n : Node s) : List (Node s) :=
  n.children.attach.flatMap fun ⟨c, _⟩ => if c.isData then [c] else c.dataChildren
termination_by s.size - n.id.index
decreasing_by
  have h₁ := index_lt_of_mem_children ‹_›
  have h₂ := c.index_lt_size
  omega

theorem dataChildren_eq (n : Node s) :
    n.dataChildren = n.children.flatMap fun c => if c.isData then [c] else c.dataChildren := by
  rw [dataChildren]
  conv => rhs; rw [← List.attach_map_subtype_val n.children]
  rw [List.flatMap_map]

def dataChild? (n : Node s) (name : String) : Option (Node s) :=
  n.dataChildren.find? (·.name == name)

/-- The node reached from `n` by a descent through data children of these names. -/
def descend? (n : Node s) : List String → Option (Node s)
  | [] => some n
  | name :: rest => (n.dataChild? name).bind (·.descend? rest)

theorem descend?_append (n : Node s) (names more : List String) :
    n.descend? (names ++ more) = (n.descend? names).bind (·.descend? more) := by
  induction names generalizing n with
  | nil => rfl
  | cons name rest ih => simp [descend?, Option.bind_assoc, ih]

end Node

namespace Schema

/-- The data node below a module at a path written with slashes. Empty segments do not count, so the
empty path leads to the module itself. -/
def find? (s : Schema) (moduleName path : String) : Option (Node s) :=
  (s.module? moduleName).bind fun m =>
    m.descend? ((Text.split '/' path).filter fun segment => segment ≠ "")

/-- The top-level data node of this name, in the first module that has one. -/
def topLevel? (s : Schema) (name : String) : Option (Node s) :=
  s.moduleNodes.findSome? (·.dataChild? name)

end Schema

end YangBind
