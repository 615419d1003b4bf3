import YangBind.Schema.Tree

/-! What a node inherits from the nodes above it: its data parent and data ancestry, in which
choices and cases do not show, its paths, and its effective `config` value. -/

namespace YangBind.Node

variable {s : Schema}

/-- The nodes above `n`, nearest first. -/
def ancestors (n : Node s) : List (Node s) :=
  match _h : n.parent? with
  | none => []
  | some p => p :: p.ancestors
termination_by n.id.index
decreasing_by exact index_parent?_lt _h

theorem ancestors_eq (n : Node s) :
    n.ancestors = match n.parent? with
      | none => []
      | some p => p :: p.ancestors := by
  rw [ancestors]
  split <;> simp [*]

/-- The nodes from `n` up to its root. -/
def lineage (n : Node s) : List (Node s) := n :: n.ancestors

theorem lineage_ne_nil (n : Node s) : n.lineage ≠ [] := List.cons_ne_nil _ _

theorem index_lt_of_mem_ancestors {n a : Node s} (h : a ∈ n.ancestors) :
    a.id.index < n.id.index := by
  fun_induction ancestors n with
  | case1 => simp at h
  | case2 n p hp ih =>
    rcases List.mem_cons.1 h with rfl | h
    · exact index_parent?_lt hp
    · exact Nat.lt_trans (ih h) (index_parent?_lt hp)

/-- The topmost node above `n`: the module that `n` lies in. -/
def root (n : Node s) : Node s := n.lineage.getLast n.lineage_ne_nil

/-- The name of the module that holds the top-level ancestor of `n`. -/
def rootModule (n : Node s) : String := n.root.name

/-- The nearest node above `n` that is neither choice nor case. -/
def dataParent? (n : Node s) : Option (Node s) := n.ancestors.find? isData

theorem index_dataParent?_lt {n p : Node s} (h : n.dataParent? = some p) :
    p.id.index < n.id.index :=
  index_lt_of_mem_ancestors (List.mem_of_find?_eq_some h)

/-- The nodes on the data path to `n`, from the root down to `n` itself. -/
def dataAncestry (n : Node s) : List (Node s) :=
  match _h : n.dataParent? with
  | none => [n]
  | some p => p.dataAncestry ++ [n]
termination_by n.id.index
decreasing_by exact index_dataParent?_lt _h

theorem dataAncestry_eq (n : Node s) :
    n.dataAncestry = match n.dataParent? with
      | none => [n]
      | some p => p.dataAncestry ++ [n] := by
  rw [dataAncestry]
  split <;> simp [*]

/-- The path of `n` with the module's segment, as `/module/a/b`. -/
def schemaPath (n : Node s) : SchemaPath := ⟨"" :: n.dataAncestry.map name⟩

/-- The instantiating modules of the segments of `schemaPath`; the boundary has the empty one. -/
def pathModules (n : Node s) : List String := "" :: n.dataAncestry.map module

/-- The path of `n` without the module's segment, as `/a/b`. -/
def dataPath (n : Node s) : SchemaPath := ⟨"" :: (n.dataAncestry.drop 1).map name⟩

theorem length_pathModules (n : Node s) : n.pathModules.length = n.schemaPath.length := by
  simp [pathModules, schemaPath, SchemaPath.length]

/-- The effective `config` value: the nearest explicit one, or true. -/
def isConfig (n : Node s) : Bool := (n.lineage.findSome? (·.entry.config)).getD true

def describe (n : Node s) : String := s!"Node(EntryId({n.id}), {n.schemaPath})"

end YangBind.Node
