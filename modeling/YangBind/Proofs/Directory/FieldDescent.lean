import YangBind.Proofs.Directory.KeyAlias
import YangBind.Proofs.Schema.DistinctPaths

/-! Where the paths of a field lead. Paths are made on the way up from the field and lose what lies
above the directory; read as names on the way down from the directory, or from the root of its
module, they come to the field again. -/

namespace YangBind.Directory

variable {s : Schema} {m : Mapper} {c : CompressBehaviour} {d₀ : Directory} {key : String}
  {b : Branch}

/-- A container with a choice in a case of a choice. A leaf `x` lies at the bottom, itself in a
choice, and another one in a list in the case before. -/
def nestedChoices : Schema := (Draft.empty.run [
  .module "m",
  .add ⟨0⟩ (.container "c"),
  .add ⟨1⟩ (.choice "outer"),
  .add ⟨2⟩ (.case "first"),
  .add ⟨3⟩ (.list "l" []),
  .add ⟨4⟩ (.leaf "x" "string"),
  .add ⟨2⟩ (.case "second"),
  .add ⟨6⟩ (.choice "inner"),
  .add ⟨7⟩ (.container "d"),
  .add ⟨8⟩ (.choice "x"),
  .add ⟨9⟩ (.leaf "x" "string")]).2.schema

theorem finished_nestedChoices : nestedChoices.Finished := Schema.finished_run (by decide +kernel)

/-- The nodes of `nestedChoices` in order of its steps. -/
def nestedNode (i : Fin 11) : Node nestedChoices :=
  (nestedChoices.node? (.ofIndex i)).get (by revert i; decide +kernel)

theorem hasDistinctSchemaPaths_nestedChoices : nestedChoices.HasDistinctSchemaPaths := by
  decide +kernel

/-- The directory of the container of `nestedChoices`, before it has fields. -/
def nestedDirectory : Directory where
  name := "M_C"
  entry := ⟨1⟩
  path := ⟨["", "m", "c"]⟩

theorem forNode_nestedChoices :
    (forNode (CamelCase.ofEnums []).mapper (nestedNode 1) .uncompressed).outcome =
      .ok nestedDirectory := by
  decide +kernel

/-- Where nodes are told apart by their schema paths, the paths of a field below the node of its
directory lead to it: the relative one from this node, the absolute one from the root. -/
theorem descend?_fieldPath? (hs : s.Finished) (hsize : s.size ≤ UInt32.size)
    (hdistinct : s.HasDistinctSchemaPaths) {n f : Node s} (hn : n.isData = true)
    (hd : (forNode m n c).outcome = .ok d₀) {fields shadowed : NameMap EntryId}
    (hfield : ({ d₀ with fields, shadowed : Directory }.branch b).find? key = some f.id)
    (hfd : f.isData = true) (hbelow : n ∈ f.ancestors) :
    let d : Directory := { d₀ with fields, shadowed }
    ∃ relative absolute, d.fieldPath? s key b .relative = .ok (some ⟨relative⟩) ∧
      n.descend? relative = some f ∧
      d.fieldPath? s key b .absolute = .ok (some ⟨"" :: absolute⟩) ∧
      n.root.descend? absolute = some f := by
  intro d
  have hf := hs.isForest hsize
  have hvisible := hdistinct.allVisible hf
  have hpath : d.path = n.schemaPath := (forNode_ok hd).1
  obtain ⟨rest, hne, hrest⟩ := Node.dataAncestry_of_mem_ancestors hbelow hn
  have hlocate : d.locate s key b = .ok (some f) :=
    locate_below hfield (hpath ▸ Node.isBelow_of_dataAncestry hrest hne)
  -- the data path of `f`, from below the directory's node and from below the root
  refine ⟨rest.map Node.name, (f.dataAncestry.drop 1).map Node.name, ?_,
    hvisible.descend?_eq hfd hrest, ?_, ?_⟩
  · rw [fieldPath?_of_locate hlocate, path_pathTo_of_dataAncestry hpath hrest]
  · rw [fieldPath?_of_locate hlocate, path_pathTo_absolute, Node.dataPath]
  · rw [← Node.root_of_mem_ancestors hbelow]
    exact hvisible.descend?_eq hfd (Node.dataAncestry_eq_root_append hf.isRooted f)

theorem descend?_fieldPath?_nestedChoices :
    let d : Directory :=
      { nestedDirectory with fields := .ofList [("x", ⟨10⟩)], shadowed := .ofList [("x", ⟨5⟩)] }
    nestedChoices.Finished ∧ nestedChoices.HasDistinctSchemaPaths ∧
      nestedNode 1 ∈ (nestedNode 10).ancestors ∧
      (∃ relative absolute, d.fieldPath? nestedChoices "x" .primary .relative =
          .ok (some ⟨relative⟩) ∧
        (nestedNode 1).descend? relative = some (nestedNode 10) ∧
        d.fieldPath? nestedChoices "x" .primary .absolute = .ok (some ⟨"" :: absolute⟩) ∧
        (nestedNode 1).root.descend? absolute = some (nestedNode 10)) ∧
      ∃ relative, d.fieldPath? nestedChoices "x" .shadow .relative = .ok (some ⟨relative⟩) ∧
        (nestedNode 1).descend? relative = some (nestedNode 5) := by
  intro d
  have hprimary : (d.branch .primary).find? "x" = some (nestedNode 10).id := by decide +kernel
  have hshadow : (d.branch .shadow).find? "x" = some (nestedNode 5).id := by decide +kernel
  have hbelow : nestedNode 1 ∈ (nestedNode 10).ancestors := by decide +kernel
  refine ⟨finished_nestedChoices, hasDistinctSchemaPaths_nestedChoices, hbelow, ?_, ?_⟩
  · exact descend?_fieldPath? finished_nestedChoices (by decide +kernel)
      hasDistinctSchemaPaths_nestedChoices (by decide +kernel) forNode_nestedChoices hprimary
      (by decide +kernel) hbelow
  · obtain ⟨relative, -, hpath, hlast, -⟩ := descend?_fieldPath? finished_nestedChoices
      (by decide +kernel) hasDistinctSchemaPaths_nestedChoices (by decide +kernel)
      forNode_nestedChoices hshadow (by decide +kernel) (by decide +kernel)
    exact ⟨relative, hpath, hlast⟩

end YangBind.Directory
