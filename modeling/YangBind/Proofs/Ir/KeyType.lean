import YangBind.Proofs.Directory.Start
import YangBind.Proofs.Ir.CompiledFields
import YangBind.Proofs.Mapper.ScalarType
import YangBind.Proofs.Schema.DistinctPaths

/-! The types of list keys. Whether a field of a list is typed as a key is settled by its entry
alone: it is one of the key leaves that the directory was started with, or it stands in the list
under the name of a key. -/

namespace YangBind

variable {s : Schema} {m m₀ : Mapper} {opts : IrOptions} {b : CompressBehaviour}
  {d start : Directory} {l f : Node s} {directories : NameMap Directory}
  {out : NameMap CompiledDirectory} {path key : String}

namespace Directory

theorem IsFor.isKey_iff (h : d.IsFor l) (hlist : l.entry.isList = true) :
    d.isKey l f = true ↔
      f ∈ l.keyLeaves ∨ f.dataParent? = some l ∧ f.name ∈ l.entry.keys := by
  simp [isKey, h.keyElems_of_isList hlist, hlist, Node.id_inj, Option.any_eq_true]

/-- Two steps or more below the list, the search by paths finds the key leaves and nothing else. -/
theorem IsFor.mappedPaths_of_far (h : d.IsFor l) (hlist : l.entry.isList = true)
    (hdistinct : s.HasDistinctSchemaPaths) (hf : f.isData = true)
    (hfield : d.fields.find? key = some f.id) (hbelow : f.schemaPath.isBelow d.path = true)
    (hfar : d.path.length + 2 ≤ f.schemaPath.length) (mode : PathMode) :
    d.mappedPaths s key true .primary mode =
      .ok (d.pathTo mode f :: if d.isKey l f then [d.aliasOf mode f] else []) := by
  have hlen : 2 ≤ (d.pathTo .relative f).path.length := two_le_length_pathTo.2 hfar
  have hnear : f.dataParent? ≠ some l := fun hp => by
    simp only [h.path_eq, SchemaPath.length, Node.schemaPath, List.length_cons, List.length_map,
      Node.dataAncestry_of_dataParent? hp, List.length_append, List.length_nil] at hfar
    omega
  have hkey : (∃ e ∈ l.keyLeaves, e.schemaPath = f.schemaPath) ↔ d.isKey l f = true := by
    rw [h.isKey_iff hlist, or_iff_left fun hchild => hnear hchild.1]
    constructor
    · rintro ⟨e, he, hpath⟩
      exact hdistinct e f (Node.isData_of_mem_keyLeaves he) hf hpath ▸ he
    · exact fun hmem => ⟨f, hmem, rfl⟩
  rw [mappedPaths_eq (b := .primary) (h.keyElems_of_isList hlist) hfield hbelow hfield hbelow]
  simp only [and_iff_right hlen, hkey]

end Directory

namespace Mapper

theorem fieldType_of_leaf (hkind : f.kind = .leaf ∨ f.kind = .leafList) :
    m.fieldType opts d l f =
      if d.isKey l f then m.askKeyLeafType f opts else m.askLeafType f opts := by
  obtain hkind | hkind := hkind <;> simp [fieldType, hkind, FieldKind.ofEntryKind]

/-- Whether compiling a field comes to this type by the method for keys, or by the one for other
leaves: of the two only this one is asked, and the type is its answer. -/
structure TypesAs (m : Mapper) (opts : IrOptions) (d : Directory) (l f : Node s) (key : String)
    (t : Option MappedType) (asKey : Bool) : Prop where
  calls_eq : (m.compileField opts d l key f).calls =
    [⟨if asKey then .keyLeafType else .leafType, f.id⟩, ⟨.fieldName, f.id⟩, ⟨.fieldFlags, f.id⟩]
  answer_eq : (if asKey then m.keyLeafType f opts else m.leafType f opts) = .ok t

variable {t t' : Option MappedType} {asKey asKey' : Bool}

theorem TypesAs.asKey_unique (h : m.TypesAs opts d l f key t asKey)
    (h' : m.TypesAs opts d l f key t' asKey') : asKey = asKey' := by
  have hcalls := h.calls_eq.symm.trans h'.calls_eq
  cases asKey <;> cases asKey' <;> simp at hcalls ⊢

theorem typesAs_isKey (hkind : f.kind = .leaf ∨ f.kind = .leafList) {compiled : CompiledField}
    (h : (m.compileField opts d l key f).outcome = .ok compiled) :
    m.TypesAs opts d l f key compiled.langType (d.isKey l f) := by
  constructor
  · have hquestions : d.typeQuestions l f =
        [⟨if d.isKey l f then .keyLeafType else .leafType, f⟩] := by
      obtain hkind | hkind := hkind <;>
        simp [Directory.typeQuestions, hkind, FieldKind.ofEntryKind]
    rw [(performs_compileField m opts d l key f).calls_of_ok h, Directory.fieldQuestions,
      hquestions]
    rfl
  · obtain ⟨-, -, -, -, htype, -⟩ := compileField_eq_ok h
    rw [fieldType_of_leaf hkind] at htype
    split at htype
    case isTrue hkey => exact (if_pos hkey).trans (outcome_ask_eq_ok_iff.1 htype)
    case isFalse hkey => exact (if_neg hkey).trans (outcome_ask_eq_ok_iff.1 htype)

end Mapper

namespace Directory

/-- The directory for the list `splitList` with the leaf of the key `id` and a leaf that is no key.
-/
def splitFields : Directory :=
  { splitDirectory with fields := .ofList [("id", ⟨5⟩), ("s", ⟨8⟩)] }

theorem startedAs_splitFields : splitFields.StartedAs splitDirectory := ⟨rfl, rfl, rfl⟩

theorem find?_splitFields :
    (NameMap.ofList [("/m/l", splitFields)]).find? "/m/l" = some splitFields := by
  simp [NameMap.ofList]

end Directory

namespace CamelCase

variable {c : CamelCase}

/-- A field that is a key leaf has the type of its list key, also where the key is a leafref and
the field is what it leads to. -/
theorem langType_eq_listKey (hs : s.Finished)
    (hstart : (Directory.forNode m₀ l b).outcome = .ok start) (hd : d.StartedAs start)
    (hlist : l.entry.isList = true) (h : c.mapper.compile s directories opts = .ok out)
    (hpath : directories.find? path = some d) (hkeeps : d.Keeps opts key f)
    (hkind : f.kind = .leaf ∨ f.kind = .leafList) {ids : List EntryId}
    (hids : d.keyElems = some ids) {i : Nat} (hi : ids[i]? = some f.id) :
    ∃ name parsed field keys listKey t, l.entry.keys[i]? = some name ∧
      out.find? path = some parsed ∧ parsed.fields.find? key = some field ∧
      parsed.listKeys = some keys ∧ keys.find? name = some listKey ∧
      field.langType = some t ∧ listKey.langType = some t := by
  have hfor := hd.isFor hstart
  obtain ⟨parsed, compiled, display, hout, hfield, hcompiled⟩ :=
    Mapper.exists_compiled_of_entry h hpath hfor.entry_eq hkeeps
  have helem : l.keyLeaves[i]? = some f := by
    obtain rfl := Option.some.inj (hids.symm.trans (hfor.keyElems_of_isList hlist))
    simpa [Node.id_inj] using hi
  -- the list key is typed by the data child `leaf` of its name, which stands for `f`
  obtain ⟨name, hname, leaf, hleaf, hstands⟩ := Node.exists_key_of_keyLeaves hs.isSound helem
  obtain ⟨_, keys, listKey, hout', hkeys, hkey, -, hkeyType⟩ :=
    Mapper.exists_listKey_of_compile h hpath hfor.entry_eq.symm hlist
      (List.mem_of_getElem? hname) hleaf
  obtain rfl := Option.some.inj (hout'.symm.trans hout)
  obtain ⟨t, ht, hlangType⟩ := keyLeafType_eq_ok_iff.1 hkeyType
  -- the field is recognised by its entry, and typed by `f` itself
  have hisKey := (hfor.isKey_iff hlist).2 (.inl (List.mem_of_getElem? helem))
  have htype := (Mapper.typesAs_isKey hkind hcompiled).answer_eq
  rw [if_pos hisKey] at htype
  obtain ⟨t', ht', hfieldType⟩ := keyLeafType_eq_ok_iff.1 htype
  obtain rfl := Except.ok.inj (ht'.symm.trans (scalar_of_standsFor hstands ht))
  exact ⟨name, _, _, keys, listKey, t', hname, hout, hfield, hkeys, hkey, hfieldType, hlangType⟩

/-- The directory `splitFields` compiled alone, with its containers folded. -/
def compileSplitFields : Except BindError (NameMap CompiledDirectory) :=
  (CamelCase.ofEnums []).mapper.compile Directory.splitList
    (.ofList [("/m/l", Directory.splitFields)]) { compressPaths := true }

theorem exists_compileSplitFields : ∃ out, compileSplitFields = .ok out := by
  have hsome : compileSplitFields.toOption.isSome = true := by decide +kernel
  obtain ⟨out, hout⟩ := Option.isSome_iff_exists.1 hsome
  exact ⟨out, toOption_eq_some_iff.1 hout⟩

theorem langType_eq_listKey_splitFields :
    ∃ out parsed field keys listKey t, compileSplitFields = .ok out ∧
      out.find? "/m/l" = some parsed ∧ parsed.fields.find? "id" = some field ∧
      parsed.listKeys = some keys ∧ keys.find? "id" = some listKey ∧
      field.langType = some t ∧ listKey.langType = some t := by
  obtain ⟨out, hout⟩ := exists_compileSplitFields
  have hkeeps : Directory.splitFields.Keeps { compressPaths := true } "id"
      (Directory.splitNode 5) := by
    constructor <;> decide +kernel
  obtain ⟨name, parsed, field, keys, listKey, t, hname, hparsed, hfield, hkeys, hkey, htypes⟩ :=
    langType_eq_listKey Directory.finished_splitList Directory.forNode_splitList
      Directory.startedAs_splitFields (by decide +kernel) hout Directory.find?_splitFields hkeeps
      (.inl (by decide +kernel)) (i := 0) rfl (by decide +kernel)
  obtain rfl : name = "id" := Option.some.inj (hname.symm.trans (by decide +kernel))
  exact ⟨out, parsed, field, keys, listKey, t, hout, hparsed, hfield, hkeys, hkey, htypes⟩

end CamelCase

namespace Mapper

/-- Where nodes are told apart by their schema paths, a far field of a folded list has an alias
exactly if it is typed as a key. -/
theorem alias_iff_typesAs_key (hdistinct : s.HasDistinctSchemaPaths)
    (hstart : (Directory.forNode m₀ l b).outcome = .ok start) (hd : d.StartedAs start)
    (hlist : l.entry.isList = true) (hcompress : opts.compressPaths = true)
    (h : m.compile s directories opts = .ok out) (hpath : directories.find? path = some d)
    (hkeeps : d.Keeps opts key f) (hkind : f.kind = .leaf ∨ f.kind = .leafList)
    (hfar : d.path.length + 2 ≤ f.schemaPath.length) :
    ∃ parsed field asKey, out.find? path = some parsed ∧ parsed.fields.find? key = some field ∧
      m.TypesAs opts d l f key field.langType asKey ∧
      let own := (d.pathTo opts.pathMode f).path
      let keyAlias := (d.aliasOf opts.pathMode f).path
      (field.mappedPaths = [own, keyAlias] ↔
        m.TypesAs opts d l f key field.langType true) ∧
      (field.mappedPaths = [own] ↔ m.TypesAs opts d l f key field.langType false) := by
  have hfor := hd.isFor hstart
  obtain ⟨parsed, compiled, display, hout, hfield, hcompiled⟩ :=
    exists_compiled_of_entry h hpath hfor.entry_eq hkeeps
  have htypes := typesAs_isKey hkind hcompiled
  obtain ⟨mapped, shadow, hmapped, -, -, -, heq⟩ := compileField_eq_ok hcompiled
  have hpaths : compiled.mappedPaths = mapped.map MappedPath.path := by rw [heq]
  have hbelow := ((Directory.primaryPaths_ok_iff hkeeps.1).1 ⟨mapped, hmapped⟩).1
  have hf : f.isData = true := by
    obtain hkind | hkind := hkind <;> simp [Node.isData, hkind, EntryKind.isChoiceOrCase]
  rw [hcompress, hfor.mappedPaths_of_far hlist hdistinct hf hkeeps.1
    (SchemaPath.isBelow_iff_prefix.2 hbelow) hfar] at hmapped
  cases hmapped
  have hiff : ∀ asKey, m.TypesAs opts d l f key compiled.langType asKey ↔ asKey = d.isKey l f :=
    fun asKey => ⟨fun h => h.asKey_unique htypes, fun h => h ▸ htypes⟩
  refine ⟨parsed, _, _, hout, hfield, htypes, ?_⟩
  cases hkey : d.isKey l f <;> simp [hiff, hpaths, hkey]

theorem hasDistinctSchemaPaths_splitList : Directory.splitList.HasDistinctSchemaPaths := by
  decide +kernel

/-- The key has an alias and is typed as a key; the leaf beside it has none and is not. -/
theorem alias_iff_typesAs_key_splitFields :
    ∃ out parsed keyField field, CamelCase.compileSplitFields = .ok out ∧
      out.find? "/m/l" = some parsed ∧
      parsed.fields.find? "id" = some keyField ∧ parsed.fields.find? "s" = some field ∧
      keyField.mappedPaths = [⟨["config", "name"]⟩, ⟨["name"]⟩] ∧
      field.mappedPaths = [⟨["state", "k"]⟩] := by
  obtain ⟨out, hout⟩ := CamelCase.exists_compileSplitFields
  have hlist : (Directory.splitNode 1).entry.isList = true := by decide +kernel
  have hkey : Directory.splitFields.Keeps { compressPaths := true } "id"
      (Directory.splitNode 5) := by
    constructor <;> decide +kernel
  have hother : Directory.splitFields.Keeps { compressPaths := true } "s"
      (Directory.splitNode 8) := by
    constructor <;> decide +kernel
  obtain ⟨parsed, keyField, asKey, hparsed, hkeyField, htypes, hboth, -⟩ :=
    alias_iff_typesAs_key hasDistinctSchemaPaths_splitList Directory.forNode_splitList
      Directory.startedAs_splitFields hlist rfl hout Directory.find?_splitFields hkey
      (.inl (by decide +kernel)) (by decide +kernel)
  obtain ⟨_, field, asKey', hparsed', hfield, htypes', -, hown⟩ :=
    alias_iff_typesAs_key hasDistinctSchemaPaths_splitList Directory.forNode_splitList
      Directory.startedAs_splitFields hlist rfl hout Directory.find?_splitFields hother
      (.inl (by decide +kernel)) (by decide +kernel)
  obtain rfl := Option.some.inj (hparsed'.symm.trans hparsed)
  -- which of the two methods was asked shows in the questions
  obtain rfl : asKey = true := by
    have hcalls := htypes.calls_eq
    cases asKey
    · revert hcalls
      decide +kernel
    · rfl
  obtain rfl : asKey' = false := by
    have hcalls := htypes'.calls_eq
    cases asKey'
    · rfl
    · revert hcalls
      decide +kernel
  exact ⟨out, _, keyField, field, hout, hparsed, hkeyField, hfield,
    (hboth.2 htypes).trans (by decide +kernel), (hown.2 htypes').trans (by decide +kernel)⟩

end Mapper

end YangBind
