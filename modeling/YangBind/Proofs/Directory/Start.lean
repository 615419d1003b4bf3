import YangBind.Proofs.Directory.KeyAlias
import YangBind.Proofs.Mapper.Script

/-! Directories as they are started. A directory that was started for a node has the node's place
and path, and the key leaves if the node is a list; fields, shadows and marks that are put into it
afterwards leave these as they are. -/

namespace YangBind.Directory

variable {s : Schema} {m : Mapper} {n l : Node s} {c : CompressBehaviour} {d start : Directory}

theorem exists_forNode_ok (hm : m.NeverFails s) (n : Node s) (c : CompressBehaviour) :
    ∃ d, (forNode m n c).outcome = .ok d := by
  obtain ⟨name, hname⟩ := verdict_eq_ok_iff.1
    (hm { transformOptions := { compressBehaviour := c } } ⟨.directoryName, n⟩)
  exact ⟨_, Traced.outcome_bind_eq_ok_iff.2 ⟨name, Mapper.outcome_ask_eq_ok_iff.2 hname, rfl⟩⟩

/-- Whether two directories have the same node, path and key leaves, whatever else was put into the
first of them. -/
structure StartedAs (d start : Directory) : Prop where
  entry_eq : d.entry = start.entry
  path_eq : d.path = start.path
  keyElems_eq : d.keyElems = start.keyElems

/-- Whether a directory has the node, the path and the key leaves that one started for `n` has. -/
structure IsFor (d : Directory) (n : Node s) : Prop where
  entry_eq : d.entry = n.id
  path_eq : d.path = n.schemaPath
  keyElems_eq : d.keyElems = if n.entry.isList then some (n.keyLeaves.map (·.id)) else none

theorem StartedAs.isFor (h : d.StartedAs start) (hstart : (forNode m n c).outcome = .ok start) :
    d.IsFor n := by
  obtain ⟨name, -, rfl⟩ := forNode_eq_ok hstart
  exact ⟨h.entry_eq, h.path_eq, h.keyElems_eq⟩

theorem IsFor.keyElems_of_isList (h : d.IsFor l) (hlist : l.entry.isList = true) :
    d.keyElems = some (l.keyLeaves.map (·.id)) :=
  h.keyElems_eq.trans (if_pos hlist)

end YangBind.Directory
