import YangBind.Proofs.Directory.Start
import YangBind.Proofs.Ir.Compilation

/-! The grouping without folding: a directory for each container and each list, with the data
children as fields under their names. Every schema has it with a mapper that answers everything, and
every field in it lies one step below its directory. -/

namespace YangBind

variable {s : Schema} {m : Mapper} {c : CompressBehaviour} {d : Directory}

/-- Whether a node has a directory of its own when nothing is folded. -/
def Node.hasDirectory (n : Node s) : Bool := n.entry.isContainer || n.entry.isList

namespace Directory

/-- Whether a directory was started for `n` and was then given the data children of `n` as fields,
each under its name, and nothing more. Of namesakes any one may be the field. -/
structure IsUncompressed (m : Mapper) (c : CompressBehaviour) (d : Directory) (n : Node s) :
    Prop where
  started : ∃ start, (forNode m n c).outcome = .ok start ∧ d = { start with fields := d.fields }
  mem_keys_iff : ∀ key, key ∈ d.fields.keys ↔ ∃ f ∈ n.dataChildren, f.name = key
  exists_child : ∀ key i, d.fields.find? key = some i →
    ∃ f ∈ n.dataChildren, f.id = i ∧ f.name = key

end Directory

namespace Schema

/-- Whether the directories are those of all containers and lists, one for each. -/
structure IsUncompressedGrouping (s : Schema) (m : Mapper) (c : CompressBehaviour)
    (directories : NameMap Directory) : Prop where
  exists_node : ∀ path d, directories.find? path = some d →
    ∃ n : Node s, n.hasDirectory = true ∧ d.IsUncompressed m c n
  existsUnique_path : ∀ n : Node s, n.hasDirectory = true →
    ∃! path, ∃ d, directories.find? path = some d ∧ d.entry = n.id

end Schema

namespace Directory

/-- The directory for a node with all its data children; of namesakes the last is the field. -/
def uncompressed (m : Mapper) (n : Node s) (c : CompressBehaviour) : Traced Directory := do
  let start ← forNode m n c
  return { start with fields := .ofList (n.dataChildren.map fun f => (f.name, f.id)) }

theorem performs_uncompressed (m : Mapper) (n : Node s) (c : CompressBehaviour) :
    (uncompressed m n c).Performs (m.reply { transformOptions := { compressBehaviour := c } })
      [.ask ⟨.directoryName, n⟩] :=
  ((Traced.performs_ask rfl).bind_pure _).bind_pure _

theorem isUncompressed_of_outcome {n : Node s} (h : (uncompressed m n c).outcome = .ok d) :
    d.IsUncompressed m c n := by
  obtain ⟨start, hstart, h⟩ := Traced.outcome_bind_eq_ok_iff.1 h
  cases h
  refine ⟨⟨start, hstart, rfl⟩, fun key => NameMap.mem_keys_ofList.trans ?_, fun key i hi => ?_⟩
  · simp
  · obtain ⟨f, hf, heq⟩ := List.mem_map.1 (NameMap.mem_of_find?_ofList hi)
    cases heq
    exact ⟨f, hf, rfl, rfl⟩

variable {n f : Node s} {key : String}

theorem IsUncompressed.startedAs (h : d.IsUncompressed m c n) :
    ∃ start, (forNode m n c).outcome = .ok start ∧ d.StartedAs start := by
  obtain ⟨start, hstart, hd⟩ := h.started
  exact ⟨start, hstart, by rw [hd], by rw [hd], by rw [hd]⟩

theorem IsUncompressed.isFor (h : d.IsUncompressed m c n) : d.IsFor n := by
  obtain ⟨start, hstart, hd⟩ := h.startedAs
  exact hd.isFor hstart

theorem IsUncompressed.shadowed_eq (h : d.IsUncompressed m c n) : d.shadowed = .empty := by
  obtain ⟨start, hstart, hd⟩ := h.started
  obtain ⟨name, -, rfl⟩ := forNode_eq_ok hstart
  rw [hd]

theorem IsUncompressed.mem_dataChildren (h : d.IsUncompressed m c n)
    (hfield : d.fields.find? key = some f.id) : f ∈ n.dataChildren ∧ f.name = key := by
  obtain ⟨x, hx, hid, hname⟩ := h.exists_child key f.id hfield
  exact Node.id_inj.1 hid ▸ ⟨hx, hname⟩

end Directory

namespace Schema

/-- The grouping without folding, by keys that the nodes are given. -/
def uncompressed (s : Schema) (m : Mapper) (c : CompressBehaviour) (keyOf : Node s → String) :
    Traced (NameMap Directory) := do
  let directories ← Traced.collectBy keyOf (Directory.uncompressed m · c)
    (s.nodes.filter Node.hasDirectory)
  return .ofList directories

/-- Whether different nodes with directories have different keys. -/
def KeysApart (keyOf : Node s → String) : Prop :=
  ∀ a b : Node s, a.hasDirectory = true → b.hasDirectory = true → keyOf a = keyOf b → a = b

variable {keyOf : Node s → String} {directories : NameMap Directory} {n : Node s}

theorem mem_filter_hasDirectory : n ∈ s.nodes.filter Node.hasDirectory ↔ n.hasDirectory = true := by
  simp [n.mem_nodes]

theorem exists_uncompressed_ok (hm : m.NeverFails s) (c : CompressBehaviour)
    (keyOf : Node s → String) :
    ∃ directories, (s.uncompressed m c keyOf).outcome = .ok directories := by
  have hperforms : (s.uncompressed m c keyOf).Performs
      (m.reply { transformOptions := { compressBehaviour := c } })
      ((s.nodes.filter Node.hasDirectory).flatMap fun n => [.ask ⟨.directoryName, n⟩]) :=
    (Traced.performs_collect fun n _ =>
      (Directory.performs_uncompressed m n c).bind_pure _).bind_pure _
  exact (hperforms.exists_ok_iff (hm _)).2 (by simp)

theorem uncompressed_find? (h : (s.uncompressed m c keyOf).outcome = .ok directories)
    (hkeys : KeysApart keyOf) (hn : n.hasDirectory = true) :
    ∃ d, (Directory.uncompressed m n c).outcome = .ok d ∧
      directories.find? (keyOf n) = some d := by
  obtain ⟨pairs, hpairs, h⟩ := Traced.outcome_bind_eq_ok_iff.1 h
  cases h
  exact NameMap.find?_ofList_of_collectBy hpairs (mem_filter_hasDirectory.2 hn) fun a ha =>
    hkeys a n (mem_filter_hasDirectory.1 ha) hn

theorem exists_of_uncompressed_find? (h : (s.uncompressed m c keyOf).outcome = .ok directories)
    {path : String} (hd : directories.find? path = some d) :
    ∃ n : Node s, n.hasDirectory = true ∧ path = keyOf n ∧
      (Directory.uncompressed m n c).outcome = .ok d := by
  obtain ⟨pairs, hpairs, h⟩ := Traced.outcome_bind_eq_ok_iff.1 h
  cases h
  obtain ⟨n, hn, hpath, hout⟩ := NameMap.exists_of_find?_ofList_collectBy hpairs hd
  exact ⟨n, mem_filter_hasDirectory.1 hn, hpath, hout⟩

/-- By keys that tell the nodes apart, what is computed is the grouping without folding. -/
theorem isUncompressedGrouping_of_outcome (hkeys : KeysApart keyOf)
    (h : (s.uncompressed m c keyOf).outcome = .ok directories) :
    s.IsUncompressedGrouping m c directories := by
  refine ⟨fun path d hd => ?_, fun n hn => ⟨keyOf n, ?_, ?_⟩⟩
  · obtain ⟨n, hn, -, hout⟩ := exists_of_uncompressed_find? h hd
    exact ⟨n, hn, Directory.isUncompressed_of_outcome hout⟩
  · obtain ⟨d, hout, hd⟩ := uncompressed_find? h hkeys hn
    exact ⟨d, hd, (Directory.isUncompressed_of_outcome hout).isFor.entry_eq⟩
  · rintro path ⟨d, hd, hentry⟩
    obtain ⟨x, -, rfl, hout⟩ := exists_of_uncompressed_find? h hd
    have hx := (Directory.isUncompressed_of_outcome hout).isFor.entry_eq
    rw [Node.id_inj.1 (hx.symm.trans hentry)]

end Schema

end YangBind
