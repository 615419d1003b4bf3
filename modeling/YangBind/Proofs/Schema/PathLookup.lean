import YangBind.Proofs.Schema.PathCompleteness

/-! Look-up of data nodes by module and path. The way down takes the segments of the path one by
one, each to a data child of that name; so the node it comes to has just these names on its own data
path. Where paths tell the nodes apart, every node is found at the path that it has. -/

namespace YangBind

open Text

namespace Node

variable {s : Schema}

/-- A descent adds the names it goes by to the data path. -/
theorem dataAncestry_of_descend? (hf : s.IsForest) {a n : Node s} {names : List String}
    (ha : a.isData = true) (h : a.descend? names = some n) :
    n.dataAncestry.map name = a.dataAncestry.map name ++ names := by
  induction names generalizing a with
  | nil =>
    obtain rfl := Option.some.inj h
    rw [List.append_nil]
  | cons first rest ih =>
    obtain ⟨c, hc, hrest⟩ := Option.bind_eq_some_iff.1 h
    rw [ih (isData_of_dataChild? hc) hrest,
      dataAncestry_of_dataParent? (dataParent?_of_dataChild? hf ha hc), List.map_append,
      List.map_singleton, name_of_dataChild? hc, List.append_assoc, List.singleton_append]

end Node

namespace Schema

variable {s : Schema}

theorem module?_eq_some_iff (hf : s.IsForest) {moduleName : String} {r : Node s} :
    s.module? moduleName = some r ↔ r.parent? = none ∧ r.name = moduleName := by
  simp only [module?, Option.bind_eq_some_iff, node?_eq_some_iff, exists_eq_right',
    hf.find?_moduleIndex, r.entry?_id, Option.some.injEq, exists_eq_left',
    Node.parent?_eq_none_iff hf.isRooted]
  rfl

theorem module?_rootModule (hf : s.IsForest) (n : Node s) : s.module? n.rootModule = some n.root :=
  (module?_eq_some_iff hf).2 ⟨n.parent?_root, rfl⟩

/-- What a path leads to has the segments of the path as the names on its own. -/
theorem schemaPath_of_find? (hf : s.IsForest) {moduleName path : String} {n : Node s}
    (h : s.find? moduleName path = some n) :
    n.schemaPath = ⟨"" :: moduleName :: (split '/' path).filter fun segment => segment ≠ ""⟩ := by
  obtain ⟨r, hr, hn⟩ := Option.bind_eq_some_iff.1 h
  obtain ⟨hroot, rfl⟩ := (module?_eq_some_iff hf).1 hr
  rw [Node.schemaPath, Node.dataAncestry_of_descend? hf (Node.isData_of_root hf.isRooted hroot) hn,
    Node.dataAncestry_of_root (Node.dataParent?_of_root hroot)]
  rfl

theorem find?_join {moduleName : String} {names : List String}
    (h : ∀ name ∈ names, name ≠ "" ∧ '/' ∉ name.toList) :
    s.find? moduleName (join '/' names) = (s.module? moduleName).bind (·.descend? names) := by
  rw [find?, filter_split_join h]

/-- A node is found by the names that its data path goes on with below the module. -/
theorem find?_of_allVisible (hf : s.IsForest) (hvisible : s.AllVisible)
    (hnames : ∀ n : Node s, n.name ≠ "" ∧ '/' ∉ n.name.toList) {n : Node s}
    (hn : n.isData = true) :
    s.find? n.rootModule (join '/' (n.schemaPath.segments.drop 2)) = some n := by
  have hbelow : n.schemaPath.segments.drop 2 = (n.dataAncestry.drop 1).map Node.name := by
    simp [Node.schemaPath]
  have hproper : ∀ name ∈ (n.dataAncestry.drop 1).map Node.name, name ≠ "" ∧ '/' ∉ name.toList := by
    intro name hname
    obtain ⟨a, -, rfl⟩ := List.mem_map.1 hname
    exact hnames a
  rw [hbelow, find?_join hproper, module?_rootModule hf, Option.bind_some]
  exact hvisible.descend?_eq hn (Node.dataAncestry_eq_root_append hf.isRooted n)

/-- A look-up finds no node but one whose path is the module and the segments of the path looked up;
and where names are proper segments and paths tell the data nodes apart, it finds each of them at
its path. -/
theorem find?_schemaPath (hs : s.Finished) (hsize : s.size ≤ UInt32.size) :
    (∀ moduleName path (n : Node s), s.find? moduleName path = some n →
      n.schemaPath =
        ⟨"" :: moduleName :: (split '/' path).filter fun segment => segment ≠ ""⟩) ∧
    ((∀ n : Node s, n.name ≠ "" ∧ '/' ∉ n.name.toList) → s.HasDistinctSchemaPaths →
      ∀ n : Node s, n.isData = true →
        s.find? n.rootModule (join '/' (n.schemaPath.segments.drop 2)) = some n) := by
  have hf := hs.isForest hsize
  refine ⟨fun moduleName path n => schemaPath_of_find? hf, fun hnames hdistinct n hn => ?_⟩
  exact find?_of_allVisible hf (hdistinct.allVisible hf) hnames hn

/-- Down to a leaf in a case of a choice, by a path with empty segments, and to a module. -/
theorem find?_schemaPath_farLeaves :
    Node.farLeaves.Finished ∧ Node.farLeaves.HasDistinctSchemaPaths ∧
      (Node.farNode 4).schemaPath = ⟨["", "m", "c", "x"]⟩ ∧
      Node.farLeaves.find? "m" "c/d/y" = some (Node.farNode 7) ∧
      Node.farLeaves.find? "n" "" = some (Node.farNode 8) := by
  have hdistinct : Node.farLeaves.HasDistinctSchemaPaths := by decide +kernel
  have hnames : ∀ n ∈ Node.farLeaves.nodes, n.name ≠ "" ∧ '/' ∉ n.name.toList := by decide +kernel
  obtain ⟨hsound, hcomplete⟩ := find?_schemaPath Node.finished_farLeaves (by decide +kernel)
  have hfind := hcomplete (fun n => hnames n n.mem_nodes) hdistinct
  refine ⟨Node.finished_farLeaves, hdistinct, ?_, ?_, ?_⟩
  · exact hsound "m" "/c//x" (Node.farNode 4) (by decide +kernel)
  · have hpath : (Node.farNode 7).rootModule = "m" ∧
        join '/' ((Node.farNode 7).schemaPath.segments.drop 2) = "c/d/y" := by
      decide +kernel
    rw [← hpath.1, ← hpath.2]
    exact hfind (Node.farNode 7) (by decide +kernel)
  · have hpath : (Node.farNode 8).rootModule = "n" ∧
        join '/' ((Node.farNode 8).schemaPath.segments.drop 2) = "" := by
      decide +kernel
    rw [← hpath.1, ← hpath.2]
    exact hfind (Node.farNode 8) (by decide +kernel)

end Schema

end YangBind
