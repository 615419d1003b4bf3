import YangBind.Proofs.Directory.Start
import YangBind.Proofs.Ir.Compilable
import YangBind.Proofs.Ir.Compilation
import YangBind.Proofs.Schema.KeyLeaves

/-! No key of a list is lost. A key that finds no data child would be passed over in silence; in a
schema that passed the check at the end there is no such key, so the key leaves, the directory
started for the list and the list keys of the compiled directory all have every key. -/

namespace YangBind

variable {s : Schema} {m : Mapper} {opts : IrOptions} {l : Node s}

/-- Whether a compiled directory has list keys, one for each of these names and no others. -/
def CompiledDirectory.HasListKeys (parsed : CompiledDirectory) (names : List String) : Prop :=
  ∃ keys, parsed.listKeys = some keys ∧ ∀ name, name ∈ keys.keys ↔ name ∈ names

namespace Mapper

/-- The keys that a list is compiled with are those that have a data child. -/
theorem mem_keys_of_compileKeys {listKeys : Option (NameMap ListKey)}
    (h : (m.compileKeys opts l).outcome = .ok listKeys) (hlist : l.entry.isList = true) :
    ∃ keys, listKeys = some keys ∧ ∀ name, name ∈ keys.keys ↔
      name ∈ l.entry.keys ∧ ∃ leaf, l.dataChild? name = some leaf := by
  have hcollect := h
  simp only [compileKeys, hlist] at hcollect
  obtain ⟨pairs, hpairs, hret⟩ := Traced.outcome_bind_eq_ok_iff.1 hcollect
  cases hret
  refine ⟨_, rfl, fun name => NameMap.mem_keys_iff.trans ⟨?_, ?_⟩⟩
  · rintro ⟨key, hkey⟩
    obtain ⟨name', hname', ps, hps, hin⟩ := NameMap.exists_of_find?_ofList_collect hpairs hkey
    split at hps
    case h_1 =>
      cases hps
      cases hin
    case h_2 leaf hleaf =>
      obtain ⟨keyName, -, hps⟩ := Traced.outcome_bind_eq_ok_iff.1 hps
      obtain ⟨langType, -, hps⟩ := Traced.outcome_bind_eq_ok_iff.1 hps
      cases hps
      cases List.mem_singleton.1 hin
      exact ⟨hname', leaf, hleaf⟩
  · rintro ⟨hname, leaf, hleaf⟩
    obtain ⟨keys, key, hkeys, hkey, -⟩ := compileKeys_find? h hlist hname hleaf
    cases hkeys
    exact ⟨key, hkey⟩

theorem hasListKeys_of_compile (hs : s.IsSound) {directories : NameMap Directory}
    {out : NameMap CompiledDirectory} (h : m.compile s directories opts = .ok out) {path : String}
    {d : Directory} (hd : directories.find? path = some d) (hentry : d.entry = l.id)
    (hlist : l.entry.isList = true) :
    ∃ parsed, out.find? path = some parsed ∧ parsed.HasListKeys l.entry.keys := by
  obtain ⟨parsed, hparsed, hout⟩ := compile_find? h hd
  obtain ⟨node, bare, hnode, -, hkeys, rfl⟩ := compileDirectory_ok hparsed
  rw [hentry, Directory.require_id] at hnode
  cases hnode
  obtain ⟨keys, hlistKeys, hmem⟩ := mem_keys_of_compileKeys hkeys hlist
  refine ⟨_, hout, keys, hlistKeys, fun name => (hmem name).trans (and_iff_left_of_imp ?_)⟩
  exact fun hname => Node.exists_dataChild?_iff.2 (hs.exists_key l name hname)

/-- Every key of a list has its key leaf, in the order of the keys; the directory started for the
list has just these leaves, and whatever directory for the list is compiled gets just these keys. -/
theorem listKeys_complete (hs : s.Finished) (hlist : l.entry.isList = true)
    (hm : m.NeverFails s) (c : CompressBehaviour) (opts : IrOptions) :
    l.keyLeaves.length = l.entry.keys.length ∧
    List.Forall₂ l.HasKeyLeaf l.entry.keys l.keyLeaves ∧
    (∃ start, (Directory.forNode m l c).outcome = .ok start ∧ start.entry = l.id ∧
      start.keyElems = some (l.keyLeaves.map (·.id)) ∧
      ∀ path, ∃ out, m.compile s (.ofList [(path, start)]) opts = .ok out) ∧
    ∀ directories out path d, m.compile s directories opts = .ok out →
      directories.find? path = some d → d.entry = l.id →
      ∃ parsed, out.find? path = some parsed ∧ parsed.HasListKeys l.entry.keys := by
  have hsound := hs.isSound
  have hleaves := Node.forall₂_keyLeaves hsound l
  refine ⟨hleaves.length_eq.symm, hleaves, ?_, fun directories out path d hout hd hentry =>
    hasListKeys_of_compile hsound hout hd hentry hlist⟩
  obtain ⟨start, hstart⟩ := Directory.exists_forNode_ok hm l c
  obtain ⟨name, -, rfl⟩ := Directory.forNode_eq_ok hstart
  refine ⟨_, hstart, rfl, if_pos hlist, fun path => exists_compile_ok hm fun p d hd => ?_⟩
  obtain ⟨-, rfl⟩ := by simpa [NameMap.ofList] using hd
  exact Directory.isCompilable_of_fields_eq_empty ⟨l, rfl⟩ rfl

/-- Both keys of `splitList` are leafrefs, and both are there at the end. -/
theorem listKeys_complete_splitList :
    List.Forall₂ (Directory.splitNode 1).HasKeyLeaf ["id", "k"]
        [Directory.splitNode 5, Directory.splitNode 6] ∧
      ∃ start out parsed, (Directory.forNode plain (Directory.splitNode 1) .uncompressed).outcome =
          .ok start ∧ start.keyElems = some [⟨5⟩, ⟨6⟩] ∧
        plain.compile Directory.splitList (.ofList [("/m/l", start)]) {} = .ok out ∧
        out.find? "/m/l" = some parsed ∧ parsed.HasListKeys ["id", "k"] := by
  have hkeys : (Directory.splitNode 1).entry.keys = ["id", "k"] := by decide +kernel
  have hleaves : (Directory.splitNode 1).keyLeaves =
      [Directory.splitNode 5, Directory.splitNode 6] := by decide +kernel
  have hids : (Directory.splitNode 1).keyLeaves.map (·.id) = [⟨5⟩, ⟨6⟩] := by decide +kernel
  obtain ⟨-, hall, ⟨start, hstart, hentry, helems, hok⟩, hlisted⟩ :=
    listKeys_complete Directory.finished_splitList (l := Directory.splitNode 1) (by decide +kernel)
      (neverFails_plain _) .uncompressed {}
  obtain ⟨out, hout⟩ := hok "/m/l"
  obtain ⟨parsed, hparsed, hhas⟩ :=
    hlisted _ out "/m/l" start hout (by simp [NameMap.ofList]) hentry
  rw [hkeys, hleaves] at hall
  exact ⟨hall, start, out, parsed, hstart, hids ▸ helems, hout, hparsed, hkeys ▸ hhas⟩

end Mapper

end YangBind
