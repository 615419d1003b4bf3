import YangBind.Proofs.Ir.Compilation
import YangBind.Proofs.Ir.Questions
import YangBind.Proofs.Mapper.Agreement

/-! Fields that the options leave out. They leave no trace: a compilation is the same, result,
failure and questions, if these fields are taken away beforehand, since what is computed for a field
depends on the other fields of its directory only in its display name. -/

namespace YangBind

variable {s : Schema} {m : Mapper} {opts : IrOptions} {d : Directory} {key : String}

namespace Directory

/-- Whether the options leave out the entry at a place; what is no entry they do not leave out. -/
def skipsEntry (s : Schema) (opts : IrOptions) (i : EntryId) : Bool :=
  (s.node? i).any fun n => opts.skips n.entry.status

/-- The directory without the fields that the options leave out. Its shadows and its key leaves
stay. -/
def withoutSkipped (s : Schema) (opts : IrOptions) (d : Directory) : Directory :=
  { d with fields := d.fields.filter fun _ i => !skipsEntry s opts i }

theorem skipsEntry_eq_true_iff {i : EntryId} :
    skipsEntry s opts i = true ↔ ∃ n : Node s, n.id = i ∧ opts.skips n.entry.status = true := by
  simp [skipsEntry, Option.any_eq_true, Schema.node?_eq_some_iff]

theorem skipsEntry_id (n : Node s) : skipsEntry s opts n.id = opts.skips n.entry.status := by
  simp [skipsEntry, Schema.node?_eq_some_iff.2 rfl]

theorem find?_withoutSkipped {i : EntryId} :
    (d.withoutSkipped s opts).fields.find? key = some i ↔
      d.fields.find? key = some i ∧ skipsEntry s opts i = false := by
  simp [withoutSkipped, NameMap.find?_filter, Option.filter_eq_some_iff]

section OtherFields

variable {fields : NameMap EntryId}

/-! What is found of a field does not depend on the other fields. -/

theorem locate_other (h : fields.find? key = d.fields.find? key) (b : Branch) :
    { d with fields }.locate s key b = d.locate s key b := by
  cases b <;> simp [locate, branch, h]

theorem mappedPaths_other (h : fields.find? key = d.fields.find? key) (compress : Bool) (b : Branch)
    (mode : PathMode) :
    { d with fields }.mappedPaths s key compress b mode = d.mappedPaths s key compress b mode := by
  have halias : { d with fields }.listKeyAlias? s key mode = d.listKeyAlias? s key mode := by
    simp only [listKeyAlias?, NameMap.contains, h, locate_other h]
    rfl
  simp only [mappedPaths, locate_other h, halias]
  rfl

theorem shadowPaths_other (h : fields.find? key = d.fields.find? key) :
    { d with fields }.shadowPaths s key opts = d.shadowPaths s key opts := by
  simp only [shadowPaths, mappedPaths_other h]

end OtherFields

end Directory

namespace Mapper

theorem compileField_other {fields : NameMap EntryId} (h : fields.find? key = d.fields.find? key)
    (node field : Node s) :
    m.compileField opts { d with fields } node key field =
      m.compileField opts d node key field := by
  simp only [compileField, Directory.mappedPaths_other h, Directory.shadowPaths_other h]
  rfl

theorem compileFields_withoutSkipped (node : Node s) :
    m.compileFields opts (d.withoutSkipped s opts) node = m.compileFields opts d node := by
  refine congrArg (fun x : Traced _ => x >>= fun fields => pure (NameMap.ofList fields)) ?_
  -- the fields that stay are compiled alike, and the others come to nothing
  refine (Traced.collect_congr ?_).trans (Traced.collect_filter ?_)
  · rintro ⟨key, i⟩ hmem
    have hfind := NameMap.find?_eq_some_iff.2 hmem
    have hother := hfind.trans (Directory.find?_withoutSkipped.1 hfind).1.symm
    refine Traced.bind_congr_of_ok fun field _ => ?_
    have hfield : m.compileField opts (d.withoutSkipped s opts) node key field = _ :=
      compileField_other hother node field
    rw [hfield]
  · rintro ⟨key, i⟩ - hskip
    obtain ⟨field, rfl, hfield⟩ := Directory.skipsEntry_eq_true_iff.1 (by simpa using hskip)
    dsimp only
    rw [Directory.require_id]
    change (if opts.skips field.entry.status = true then _ else _) = _
    rw [if_pos hfield]

theorem compileDirectory_withoutSkipped :
    m.compileDirectory s opts (d.withoutSkipped s opts) = m.compileDirectory s opts d := by
  refine Traced.bind_congr_of_ok fun node _ => ?_
  rw [compileFields_withoutSkipped]
  rfl

theorem compileTraced_withoutSkipped (directories : NameMap Directory) :
    m.compileTraced s (directories.map fun _ d => d.withoutSkipped s opts) opts =
      m.compileTraced s directories opts := by
  refine congrArg (fun x : Traced _ => x >>= fun compiled => pure (NameMap.ofList compiled)) ?_
  refine (Traced.collect_map _ _).trans (Traced.collect_congr ?_)
  rintro ⟨path, d⟩ -
  dsimp only
  rw [compileDirectory_withoutSkipped]

theorem keys_of_compileFields {node : Node s} {fields : NameMap CompiledField}
    (h : (m.compileFields opts d node).outcome = .ok fields) :
    fields.keys = (d.withoutSkipped s opts).fields.keys := by
  refine NameMap.keys_eq_of_mem_iff fun key => ?_
  rw [NameMap.mem_keys_iff, NameMap.mem_keys_iff]
  constructor
  · rintro ⟨compiled, hcompiled⟩
    obtain ⟨field, hfield, hkept, -⟩ := exists_of_compileFields_find? h hcompiled
    exact ⟨field.id, Directory.find?_withoutSkipped.2
      ⟨hfield, (Directory.skipsEntry_id field).trans hkept⟩⟩
  · rintro ⟨i, hi⟩
    obtain ⟨hfield, hkept⟩ := Directory.find?_withoutSkipped.1 hi
    obtain ⟨field, rfl⟩ := exists_node_of_compileFields h hfield
    obtain ⟨compiled, -, hcompiled⟩ :=
      compileFields_find? h hfield ((Directory.skipsEntry_id field).symm.trans hkept)
    exact ⟨compiled, hcompiled⟩

/-- Beside the directory of the list one that has a deprecated field alone. -/
def agingDirectories : NameMap Directory := statusDirectories.insert "/m/old" {
  name := "Old"
  entry := ⟨1⟩
  path := ⟨["", "m", "l"]⟩
  fields := .ofList [("old", ⟨5⟩)] }

/-- Fields that the options leave out may be taken away before a compilation. The compiled
directories have the remaining fields, and every directory is there, if only without fields. -/
theorem compile_withoutSkipped (m : Mapper) (s : Schema) (directories : NameMap Directory)
    (opts : IrOptions) :
    m.compile s (directories.map fun _ d => d.withoutSkipped s opts) opts =
        m.compile s directories opts ∧
      ∀ out, m.compile s directories opts = .ok out → out.keys = directories.keys ∧
        ∀ path d, directories.find? path = some d → ∃ parsed, out.find? path = some parsed ∧
          parsed.fields.keys = (d.withoutSkipped s opts).fields.keys := by
  refine ⟨congrArg Traced.outcome (compileTraced_withoutSkipped directories), fun out hout => ?_⟩
  refine ⟨keys_of_compile hout, fun path d hd => ?_⟩
  obtain ⟨parsed, hparsed, hfound⟩ := compile_find? hout hd
  obtain ⟨node, bare, -, hfields, -, rfl⟩ := compileDirectory_ok hparsed
  exact ⟨_, hfound, (NameMap.keys_map _ _).trans (keys_of_compileFields hfields)⟩

theorem compile_withoutSkipped_aging :
    ∃ out, plain.compile statusList agingDirectories skipDeprecated = .ok out ∧
      out.keys = ["/m/l", "/m/old"] ∧
      (∃ parsed, out.find? "/m/l" = some parsed ∧ parsed.fields.keys = ["c", "v"]) ∧
      ∃ parsed, out.find? "/m/old" = some parsed ∧ parsed.fields.keys = [] := by
  have hok : (plain.compile statusList agingDirectories skipDeprecated).toOption.isSome = true := by
    decide +kernel
  obtain ⟨out, hout⟩ := Option.isSome_iff_exists.1 hok
  have hout := toOption_eq_some_iff.1 hout
  obtain ⟨hpaths, hfields⟩ :=
    (compile_withoutSkipped plain statusList agingDirectories skipDeprecated).2 out hout
  have hremain : ∀ path keys, (agingDirectories.find? path).map (fun d =>
      (d.withoutSkipped statusList skipDeprecated).fields.keys) = some keys →
      ∃ parsed, out.find? path = some parsed ∧ parsed.fields.keys = keys := by
    intro path keys h
    obtain ⟨d, hd, rfl⟩ := Option.map_eq_some_iff.1 h
    exact hfields path d hd
  exact ⟨out, hout, hpaths.trans (by decide +kernel), hremain _ _ (by decide +kernel),
    hremain _ _ (by decide +kernel)⟩

end Mapper

end YangBind
