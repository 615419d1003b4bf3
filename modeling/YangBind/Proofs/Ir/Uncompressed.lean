import YangBind.Proofs.Directory.Uncompressed
import YangBind.Proofs.Ir.ShadowSwitch

/-! The grouping without folding, compiled. In a schema that was built step by step every field is
found one step below its directory. That is too near for an alias, and there are no shadows, so all
of the grouping compiles and every field has the one path that it is expected to have. -/

namespace YangBind

variable {s : Schema} {m m₀ : Mapper} {c : CompressBehaviour} {opts : IrOptions} {d : Directory}
  {n f : Node s} {key : String} {mode : PathMode}

theorem Node.isData_of_hasDirectory (h : n.hasDirectory = true) : n.isData = true := by
  revert h
  unfold hasDirectory isData kind Entry.isContainer Entry.isList
  cases n.entry.kind <;> simp [EntryKind.isChoiceOrCase]

/-- Whether the only path of a compiled field is that of `f`: its bare name with its module, or,
where paths start at the boundary, its data path. -/
structure CompiledField.HasOnlyPathOf (field : CompiledField) (mode : PathMode) (f : Node s) :
    Prop where
  relative : mode = .relative →
    field.mappedPaths = [⟨[f.name]⟩] ∧ field.mappedPathModules = [[f.module]]
  absolute : mode = .absolute → field.mappedPaths = [f.dataPath]
  no_shadows : field.shadowMappedPaths = [] ∧ field.shadowMappedPathModules = []

namespace Directory

/-- One step below its directory a field has no path but its own. -/
theorem mappedPaths_of_near {compress : Bool} (h : d.locate s key .primary = .ok (some f))
    (hnear : ¬d.path.length + 2 ≤ f.schemaPath.length) :
    d.mappedPaths s key compress .primary mode = .ok [d.pathTo mode f] := by
  have hnone : d.listKeyAlias? s key mode = .ok none := by
    cases hk : d.keyElems with
    | none => simp [listKeyAlias?, hk]
    | some elems => rw [listKeyAlias?_of_locate hk h, if_neg hnear]
  rw [mappedPaths_of_locate h, hnone, ite_self]
  rfl

namespace IsUncompressed

theorem find?_shadowed (h : d.IsUncompressed m₀ c n) (key : String) :
    d.shadowed.find? key = none := by
  rw [h.shadowed_eq, NameMap.find?_empty]

section Fields

variable (hs : s.IsForest) (hn : n.hasDirectory = true) (h : d.IsUncompressed m₀ c n)
include hs hn h

theorem dataAncestry_eq (hfield : d.fields.find? key = some f.id) :
    f.dataAncestry = n.dataAncestry ++ [f] := by
  have hmem := (h.mem_dataChildren hfield).1
  rw [Node.mem_dataChildren_iff hs (Node.isData_of_hasDirectory hn)] at hmem
  exact Node.dataAncestry_of_dataParent? hmem.2

theorem not_far (hfield : d.fields.find? key = some f.id) :
    ¬d.path.length + 2 ≤ f.schemaPath.length := by
  simp [h.isFor.path_eq, SchemaPath.length, Node.schemaPath, h.dataAncestry_eq hs hn hfield]

theorem extends_path (hfield : d.fields.find? key = some f.id) :
    f.schemaPath.Extends d.path := by
  rw [h.isFor.path_eq]
  exact SchemaPath.isBelow_iff_prefix.1
    (Node.isBelow_of_dataAncestry (h.dataAncestry_eq hs hn hfield) (List.cons_ne_nil f []))

theorem isCompilable (opts : IrOptions) : d.IsCompilable s opts where
  entry := ⟨n, h.isFor.entry_eq.symm⟩
  fields key i hi := by
    obtain ⟨f, -, hf, -⟩ := h.exists_child key i hi
    exact ⟨f, hf⟩
  below key f hf := h.extends_path hs hn hf.1
  shadows _ key _ _ i hi := by
    rw [h.find?_shadowed key] at hi
    cases hi
  keys _ key f hf _ _ hfar := absurd hfar (h.not_far hs hn hf.1)

theorem pathTo_relative (hfield : d.fields.find? key = some f.id) :
    d.pathTo .relative f = ⟨⟨[f.name]⟩, [f.module]⟩ := by
  simp [pathTo, h.isFor.path_eq, SchemaPath.drop, SchemaPath.length, Node.schemaPath,
    Node.pathModules, h.dataAncestry_eq hs hn hfield]

theorem hasOnlyPathOf (hfield : d.fields.find? key = some f.id) {field : CompiledField}
    (hcompiled : (m.compileField opts d n key f).outcome = .ok field) :
    field.HasOnlyPathOf opts.pathMode f := by
  obtain ⟨mapped, shadow, hmapped, hshadow, -, -, heq⟩ := Mapper.compileField_eq_ok hcompiled
  have hlocate : d.locate s key .primary = .ok (some f) :=
    locate_eq_some_iff.2 ⟨hfield, h.extends_path hs hn hfield⟩
  rw [mappedPaths_of_near hlocate (h.not_far hs hn hfield)] at hmapped
  rw [shadowPaths_of_none (h.find?_shadowed key)] at hshadow
  cases hmapped
  cases hshadow
  rw [heq]
  refine ⟨fun hmode => ?_, fun hmode => ?_, rfl, rfl⟩
  · rw [hmode, h.pathTo_relative hs hn hfield]
    exact ⟨rfl, rfl⟩
  · rw [hmode]
    exact congrArg ([·]) path_pathTo_absolute

end Fields

end IsUncompressed

end Directory

namespace Mapper

/-- The grouping without folding compiles whatever the options are, and every field has its own
path alone. -/
theorem compile_uncompressed (hs : s.Finished) (hsize : s.size ≤ UInt32.size)
    (hm : m.NeverFails s) {directories : NameMap Directory}
    (hgroup : s.IsUncompressedGrouping m₀ c directories) (opts : IrOptions) :
    ∃ out, m.compile s directories opts = .ok out ∧
      ∀ path d, directories.find? path = some d → ∃ (n : Node s) (parsed : CompiledDirectory),
        d.IsUncompressed m₀ c n ∧ out.find? path = some parsed ∧
        (∀ key (f : Node s), d.Keeps opts key f → f ∈ n.dataChildren ∧ f.name = key ∧
          ∃ field, parsed.fields.find? key = some field ∧ field.HasOnlyPathOf opts.pathMode f) ∧
        ∀ key field, parsed.fields.find? key = some field → ∃ f : Node s, d.Keeps opts key f := by
  have hforest := hs.isForest hsize
  have hcompilable : ∀ path d, directories.find? path = some d → d.IsCompilable s opts := by
    intro path d hd
    obtain ⟨n, hn, hd⟩ := hgroup.exists_node path d hd
    exact hd.isCompilable hforest hn opts
  obtain ⟨out, hout⟩ := exists_compile_ok hm hcompilable
  refine ⟨out, hout, fun path d hd => ?_⟩
  obtain ⟨n, hn, hfor⟩ := hgroup.exists_node path d hd
  obtain ⟨parsed, -, hparsed⟩ := compile_find? hout hd
  refine ⟨n, parsed, hfor, hparsed, fun key f hkeeps => ?_, fun key field hfield =>
    exists_keeps_of_compiled hout hd hparsed hfield⟩
  obtain ⟨hmem, hname⟩ := hfor.mem_dataChildren hkeeps.1
  obtain ⟨_, compiled, display, hparsed', hfield, hcompiled⟩ :=
    exists_compiled_of_entry hout hd hfor.isFor.entry_eq hkeeps
  obtain rfl := Option.some.inj (hparsed'.symm.trans hparsed)
  have honly := hfor.hasOnlyPathOf hforest hn hkeeps.1 hcompiled
  exact ⟨hmem, hname, _, hfield, honly.relative, honly.absolute, honly.no_shadows⟩

/-- The directory for the list `splitList` with all its data children. -/
def splitChildren : Directory := { Directory.splitDirectory with
  name := "l"
  fields := .ofList [("id", ⟨2⟩), ("k", ⟨3⟩), ("config", ⟨4⟩), ("state", ⟨7⟩)] }

/-- The key `id` has its own path alone, although it refers to a leaf of the folded container. -/
theorem compile_uncompressed_splitList :
    ∃ directories out parsed field,
      (Directory.splitList.uncompressed plain .uncompressed (·.schemaPath.render)).outcome =
        .ok directories ∧
      plain.compile Directory.splitList directories
        { compressPaths := true, shadowSchemaPaths := true } = .ok out ∧
      out.find? "/m/l" = some parsed ∧ parsed.fields.find? "id" = some field ∧
      field.mappedPaths = [⟨["id"]⟩] := by
  have hrender : ∀ a ∈ Directory.splitList.nodes, ∀ b ∈ Directory.splitList.nodes,
      a.hasDirectory = true → b.hasDirectory = true →
      a.schemaPath.render = b.schemaPath.render → a = b := by decide +kernel
  have hkeys : Schema.KeysApart fun n : Node Directory.splitList => n.schemaPath.render :=
    fun a b => hrender a a.mem_nodes b b.mem_nodes
  obtain ⟨directories, hdirs⟩ := Schema.exists_uncompressed_ok
    (neverFails_plain Directory.splitList) .uncompressed (·.schemaPath.render)
  obtain ⟨out, hout, hall⟩ := compile_uncompressed Directory.finished_splitList
    (by decide +kernel) (neverFails_plain _)
    (Schema.isUncompressedGrouping_of_outcome hkeys hdirs)
    { compressPaths := true, shadowSchemaPaths := true }
  obtain ⟨d, hd, hfind⟩ := Schema.uncompressed_find? hdirs hkeys (n := Directory.splitNode 1)
    (by decide +kernel)
  have hchildren : (Directory.uncompressed plain (Directory.splitNode 1) .uncompressed).outcome =
      .ok splitChildren := by decide +kernel
  obtain rfl := Except.ok.inj (hd.symm.trans hchildren)
  have hkeeps : splitChildren.Keeps { compressPaths := true, shadowSchemaPaths := true } "id"
      (Directory.splitNode 2) := by
    constructor <;> decide +kernel
  obtain ⟨n, parsed, -, hparsed, hfields, -⟩ := hall _ _ hfind
  obtain ⟨-, -, field, hfield, honly⟩ := hfields "id" (Directory.splitNode 2) hkeeps
  have hpath : (Directory.splitNode 1).schemaPath.render = "/m/l" := by decide +kernel
  exact ⟨directories, out, parsed, field, hdirs, hout, hpath ▸ hparsed, hfield,
    (honly.relative rfl).1.trans (by decide +kernel)⟩

end Mapper

end YangBind
