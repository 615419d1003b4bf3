import YangBind.Proofs.Schema.Visibility

/-! Schemas in which nodes are told apart by their paths. There no node is hidden behind a namesake,
so the names along a data path lead down it from each node on the way. -/

namespace YangBind

namespace Node

variable {s : Schema}

/-- Whether a node stands in the data tree: it is no choice and no case, and not the root of a
module. -/
def InDataTree (n : Node s) : Prop := n.isData = true ∧ n.parent? ≠ none

instance (n : Node s) : Decidable n.InDataTree := inferInstanceAs (Decidable (_ ∧ _))

theorem inDataTree_of_dataParent? {n p : Node s} (hn : n.isData = true)
    (hp : n.dataParent? = some p) : n.InDataTree := by
  refine ⟨hn, fun hroot => ?_⟩
  simp [dataParent?_of_root hroot] at hp

/-- Between the root and a node of the data tree stands a top-level node, or it is one itself. -/
theorem InDataTree.exists_top (hr : s.IsRooted) {n : Node s} (h : n.InDataTree) :
    ∃ top below, n.dataAncestry = n.root.dataAncestry ++ top :: below := by
  have hancestry := dataAncestry_eq_root_append hr n
  cases hrest : n.dataAncestry.drop 1 with
  | nil =>
    rw [hrest, List.append_nil] at hancestry
    exact absurd (dataAncestry_inj hancestry ▸ parent?_root n) h.2
  | cons top below => exact ⟨top, below, hrest ▸ hancestry⟩

/-- Namesakes below one data node have the same paths. -/
theorem paths_eq_of_namesakes {a b p : Node s} (ha : a.dataParent? = some p)
    (hb : b.dataParent? = some p) (hname : a.name = b.name) :
    a.schemaPath = b.schemaPath ∧ a.dataPath = b.dataPath := by
  have hnames : a.dataAncestry.map name = b.dataAncestry.map name := by
    simp [dataAncestry_of_dataParent? ha, dataAncestry_of_dataParent? hb, hname]
  simp [schemaPath, dataPath, hnames]

theorem isVisible_of_unique (hf : s.IsForest) {n p : Node s} (hn : n.isData = true)
    (hp : n.dataParent? = some p)
    (hunique : ∀ x : Node s, x.isData = true → x.dataParent? = some p → x.name = n.name → x = n) :
    n.IsVisible := by
  have hpd := isData_of_dataParent? hp
  have hmem := (mem_dataChildren_iff hf hpd).2 ⟨hn, hp⟩
  refine ⟨p, hp, ?_⟩
  cases hfound : p.dataChild? n.name with
  | none => simpa using List.find?_eq_none.1 hfound n hmem
  | some x =>
    rw [hunique x (isData_of_dataChild? hfound) (dataParent?_of_dataChild? hf hpd hfound)
      (name_of_dataChild? hfound)]

end Node

namespace Schema

variable {s : Schema}

/-- Whether no two nodes that data paths show have one schema path. -/
def HasDistinctSchemaPaths (s : Schema) : Prop :=
  ∀ a b : Node s, a.isData = true → b.isData = true → a.schemaPath = b.schemaPath → a = b

instance : Decidable s.HasDistinctSchemaPaths :=
  decidable_of_iff (∀ a ∈ s.nodes, ∀ b ∈ s.nodes, a.isData = true → b.isData = true →
      a.schemaPath = b.schemaPath → a = b)
    ⟨fun h a b => h a a.mem_nodes b b.mem_nodes, fun h a _ b _ => h a b⟩

/-- Whether no two nodes of the data tree have one data path, not even in different modules. -/
def HasDistinctDataPaths (s : Schema) : Prop :=
  ∀ a b : Node s, a.InDataTree → b.InDataTree → a.dataPath = b.dataPath → a = b

/-- Whether every node that data paths show is found by its name. -/
def AllVisible (s : Schema) : Prop :=
  ∀ n p : Node s, n.isData = true → n.dataParent? = some p → n.IsVisible

theorem HasDistinctSchemaPaths.allVisible (h : s.HasDistinctSchemaPaths) (hf : s.IsForest) :
    s.AllVisible := by
  intro n p hn hp
  refine Node.isVisible_of_unique hf hn hp fun x hx hxp hname => ?_
  exact h x n hx hn (Node.paths_eq_of_namesakes hxp hp hname).1

theorem HasDistinctDataPaths.allVisible (h : s.HasDistinctDataPaths) (hf : s.IsForest) :
    s.AllVisible := by
  intro n p hn hp
  refine Node.isVisible_of_unique hf hn hp fun x hx hxp hname => ?_
  exact h x n (Node.inDataTree_of_dataParent? hx hxp) (Node.inDataTree_of_dataParent? hn hp)
    (Node.paths_eq_of_namesakes hxp hp hname).2

/-- Where all nodes are visible, the names that a data path goes on with lead down it. -/
theorem AllVisible.descend?_eq (h : s.AllVisible) {n a : Node s} {rest : List (Node s)}
    (hn : n.isData = true) (hrest : n.dataAncestry = a.dataAncestry ++ rest) :
    a.descend? (rest.map Node.name) = some n := by
  refine Node.descend?_of_isVisible hrest fun b hb => ?_
  obtain ⟨p, hp⟩ := Node.exists_dataParent?_of_mem_rest hrest hb
  have hbd := Node.isData_of_mem_dataAncestry hn (hrest ▸ List.mem_append_right _ hb)
  exact h b p hbd hp

end Schema

end YangBind
