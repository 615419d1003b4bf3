import YangBind.Proofs.Ir.Agreement
import YangBind.Proofs.Ir.CompiledFields

/-! The switch for the paths of shadows. It acts on its own, whether containers are folded or not: a
compilation is the same under both of its positions exactly if no field that stays has a shadow,
as far as the mapper does not look at the switch itself. -/

namespace YangBind

variable {s : Schema} {m : Mapper} {opts : IrOptions} {d : Directory} {node : Node s}
  {directories : NameMap Directory}

def IrOptions.withShadows (opts : IrOptions) (on : Bool) : IrOptions :=
  { opts with shadowSchemaPaths := on }

/-- Whether no field that stays has a shadow. -/
def Schema.Unshadowed (s : Schema) (directories : NameMap Directory) (opts : IrOptions) : Prop :=
  ∀ path d key (n : Node s), directories.find? path = some d → d.Keeps opts key n →
    d.shadowed.find? key = none

namespace Mapper

/-- Whether the types of the fields that stay and of the keys of lists do not hang on the switch. -/
structure TypesUnshadowed (m : Mapper) (s : Schema) (directories : NameMap Directory)
    (opts : IrOptions) : Prop where
  fields : ∀ path d key (node field : Node s), directories.find? path = some d →
    node.id = d.entry → d.Keeps opts key field →
      (m.fieldType (opts.withShadows true) d node field).outcome =
        (m.fieldType (opts.withShadows false) d node field).outcome
  keys : ∀ path d (l : Node s), directories.find? path = some d → l.id = d.entry →
    l.entry.isList = true → ∀ key ∈ l.entry.keys, ∀ leaf, l.dataChild? key = some leaf →
      m.keyLeafType leaf (opts.withShadows true) = m.keyLeafType leaf (opts.withShadows false)

end Mapper

namespace Directory

theorem mappedPaths_shadow_of_none {key : String} (h : d.shadowed.find? key = none)
    (compress : Bool) (mode : PathMode) : d.mappedPaths s key compress .shadow mode = .ok [] :=
  mappedPaths_of_locate_none (locate_absent_shadow h)

theorem shadowPaths_of_none {key : String} (h : d.shadowed.find? key = none) (opts : IrOptions) :
    d.shadowPaths s key opts = .ok [] := by
  unfold shadowPaths
  split
  · exact mappedPaths_shadow_of_none h _ _
  · rfl

theorem shadowed_eq_none_of_mappedPaths {key : String} {compress : Bool} {mode : PathMode}
    (h : d.mappedPaths s key compress .shadow mode = .ok []) : d.shadowed.find? key = none := by
  obtain ⟨hnone, -⟩ | ⟨n, keyAlias, -, -, hpaths⟩ := mappedPaths_eq_ok h
  · exact (locate_eq_none_iff.1 hnone).1
  · cases hpaths

end Directory

namespace Mapper

theorem compileField_withShadows {field : Node s} {key : String}
    (hshadow : d.shadowed.find? key = none)
    (htype : (m.fieldType (opts.withShadows true) d node field).outcome =
      (m.fieldType (opts.withShadows false) d node field).outcome) :
    Agree Eq (m.compileField (opts.withShadows true) d node key field).outcome
      (m.compileField (opts.withShadows false) d node key field).outcome := by
  unfold compileField
  -- without a shadow both positions go for the same paths
  rw [Directory.shadowPaths_of_none hshadow, Directory.shadowPaths_of_none hshadow]
  refine Traced.agree_bind_self _ fun mapped _ => ?_
  refine Traced.agree_bind_self _ fun shadow _ => ?_
  refine Traced.agree_bind (Agree.eq_iff.2 htype) ?_
  rintro langType _ rfl
  exact Agree.refl (fun _ => rfl) _

theorem compile_withShadows (hshadows : s.Unshadowed directories opts)
    (htypes : m.TypesUnshadowed s directories opts) :
    m.compile s directories (opts.withShadows true) =
      m.compile s directories (opts.withShadows false) := by
  have hdirs : ∀ path d, directories.find? path = some d →
      Agree (CompiledDirectory.FieldsRelated Eq)
        (m.compileDirectory s (opts.withShadows true) d).outcome
        (m.compileDirectory s (opts.withShadows false) d).outcome := by
    intro path d hd
    refine agree_compileDirectory CompiledField.respectsNames_eq rfl rfl ?_ ?_
    · intro node hnode key field hkeeps
      exact compileField_withShadows (hshadows path d key field hd hkeeps)
        (htypes.fields path d key node field hd hnode hkeeps)
    · intro node hnode
      exact compileKeys_congr_options (htypes.keys path d node hd hnode)
  refine Agree.eq_iff.1 (Agree.mono (fun a b hab => ?_) (agree_compile hdirs))
  refine NameMap.related_eq_iff.1 (hab.mono ?_)
  rintro path x y ⟨d, -, hxy⟩
  exact hxy.eq

/-- Equal results have been compiled of equal types and equal shadow paths. -/
theorem of_compile_eq {o o' : IrOptions} {out : NameMap CompiledDirectory}
    (h : m.compile s directories o = .ok out) (h' : m.compile s directories o' = .ok out)
    {path key : String} {field : Node s} (hd : directories.find? path = some d)
    (hkeeps : d.Keeps o key field) (hkeeps' : d.Keeps o' key field) :
    ∃ node : Node s, node.id = d.entry ∧
      (m.fieldType o d node field).outcome = (m.fieldType o' d node field).outcome ∧
      ∃ shadow shadow', d.shadowPaths s key o = .ok shadow ∧ d.shadowPaths s key o' = .ok shadow' ∧
        shadow.map MappedPath.path = shadow'.map MappedPath.path := by
  obtain ⟨node, parsed, compiled, name, hnode, hparsed, hfound, hcompiled⟩ :=
    exists_compiled_of_keeps h hd hkeeps
  obtain ⟨node', parsed', compiled', name', hnode', hparsed', hfound', hcompiled'⟩ :=
    exists_compiled_of_keeps h' hd hkeeps'
  obtain rfl := Node.id_inj.1 (hnode.trans hnode'.symm)
  obtain rfl := Option.some.inj (hparsed.symm.trans hparsed')
  have hsame := Option.some.inj (hfound.symm.trans hfound')
  have hlang := congrArg CompiledField.langType hsame
  have hpaths := congrArg CompiledField.shadowMappedPaths hsame
  obtain ⟨mapped, shadow, -, hshadow, htype, -, heq⟩ := compileField_eq_ok hcompiled
  obtain ⟨mapped', shadow', -, hshadow', htype', -, heq'⟩ := compileField_eq_ok hcompiled'
  refine ⟨node, hnode, ?_, shadow, shadow', hshadow, hshadow', ?_⟩
  · rw [htype, htype']
    exact congrArg Except.ok hlang
  · rw [heq, heq'] at hpaths
    exact hpaths

theorem unshadowed_of_compile_eq {out : NameMap CompiledDirectory}
    (h : m.compile s directories (opts.withShadows true) = .ok out)
    (h' : m.compile s directories (opts.withShadows false) = .ok out) :
    s.Unshadowed directories opts := by
  intro path d key n hd hkeeps
  obtain ⟨-, -, -, shadow, shadow', hshadow, hshadow', hpaths⟩ :=
    of_compile_eq h h' hd hkeeps hkeeps
  obtain rfl : [] = shadow' := Except.ok.inj hshadow'
  obtain rfl := List.map_eq_nil_iff.1 hpaths
  exact Directory.shadowed_eq_none_of_mappedPaths hshadow

theorem typesUnshadowed_of_compile_eq {out : NameMap CompiledDirectory}
    (h : m.compile s directories (opts.withShadows true) = .ok out)
    (h' : m.compile s directories (opts.withShadows false) = .ok out) :
    m.TypesUnshadowed s directories opts where
  fields path d key node field hd hnode hkeeps := by
    obtain ⟨node', hnode', htype, -⟩ := of_compile_eq h h' hd hkeeps hkeeps
    obtain rfl := Node.id_inj.1 (hnode.trans hnode'.symm)
    exact htype
  keys path d l hd hentry hlist key hkey leaf hleaf := by
    obtain ⟨parsed, keys, listKey, hparsed, hkeys, hfound, -, htype⟩ :=
      exists_listKey_of_compile h hd hentry hlist hkey hleaf
    obtain ⟨parsed', keys', listKey', hparsed', hkeys', hfound', -, htype'⟩ :=
      exists_listKey_of_compile h' hd hentry hlist hkey hleaf
    obtain rfl := Option.some.inj (hparsed.symm.trans hparsed')
    obtain rfl := Option.some.inj (hkeys.symm.trans hkeys')
    obtain rfl := Option.some.inj (hfound.symm.trans hfound')
    exact htype.trans htype'.symm

/-- The directory for `splitList` with the field `k` and these shadows. -/
def splitField (shadowed : NameMap EntryId) : Directory :=
  { seekDirectory [⟨5⟩, ⟨6⟩] with shadowed }

def compileSplit (shadowed : NameMap EntryId) (on : Bool) :
    Except BindError (NameMap CompiledDirectory) :=
  plain.compile Directory.splitList (.ofList [("/m/l", splitField shadowed)])
    (IrOptions.withShadows { compressPaths := false } on)

/-- The switch makes no difference if no field that stays has a shadow and the types do not hang on
it; to a result that there is without shadows it makes none only then. Whether containers are folded
does not enter. -/
theorem compile_withShadows_iff (m : Mapper) (s : Schema) (directories : NameMap Directory)
    (opts : IrOptions) :
    (s.Unshadowed directories opts ∧ m.TypesUnshadowed s directories opts →
      m.compile s directories (opts.withShadows true) =
        m.compile s directories (opts.withShadows false)) ∧
    ∀ out, m.compile s directories (opts.withShadows false) = .ok out →
      (m.compile s directories (opts.withShadows true) = .ok out ↔
        s.Unshadowed directories opts ∧ m.TypesUnshadowed s directories opts) := by
  have hsame : s.Unshadowed directories opts ∧ m.TypesUnshadowed s directories opts →
      m.compile s directories (opts.withShadows true) =
        m.compile s directories (opts.withShadows false) :=
    fun ⟨hshadows, htypes⟩ => compile_withShadows hshadows htypes
  refine ⟨hsame, fun out hout => ⟨fun hout' => ?_, fun h => (hsame h).trans hout⟩⟩
  exact ⟨unshadowed_of_compile_eq hout' hout, typesUnshadowed_of_compile_eq hout' hout⟩

theorem compile_withShadows_iff_splitList :
    compileSplit .empty true = compileSplit .empty false ∧
      ∃ out, compileSplit (.ofList [("k", ⟨8⟩)]) false = .ok out ∧
        compileSplit (.ofList [("k", ⟨8⟩)]) true ≠ .ok out := by
  constructor
  · refine (compile_withShadows_iff plain _ _ { compressPaths := false }).1 ⟨?_, ?_, ?_⟩
    · intro path d key n hd _
      obtain ⟨-, rfl⟩ : path = "/m/l" ∧ splitField .empty = d := by simpa [NameMap.ofList] using hd
      rfl
    · exact fun _ _ _ _ _ _ _ _ => rfl
    · exact fun _ _ _ _ _ _ _ _ _ _ => rfl
  · have hok : (compileSplit (.ofList [("k", ⟨8⟩)]) false).isOk = true := by decide +kernel
    cases hout : compileSplit (.ofList [("k", ⟨8⟩)]) false with
    | error e => simp [hout, Except.isOk, Except.toBool] at hok
    | ok out =>
      refine ⟨out, rfl, fun hout' => ?_⟩
      obtain ⟨hshadows, -⟩ :=
        ((compile_withShadows_iff plain _ _ { compressPaths := false }).2 out hout).1 hout'
      have hnone := hshadows "/m/l" (splitField (.ofList [("k", ⟨8⟩)])) "k" (Directory.splitNode 6)
        (by simp [NameMap.ofList]) ⟨by decide +kernel, by decide +kernel⟩
      revert hnone
      decide +kernel

/-- Nothing is folded, and yet the switch adds the path of the shadow. -/
theorem shadow_path_without_folding :
    let shadowPaths (on : Bool) :=
      ((compileSplit (.ofList [("k", ⟨8⟩)]) on).toOption.bind (·.find? "/m/l")).bind fun parsed =>
        (parsed.fields.find? "k").map CompiledField.shadowMappedPaths
    shadowPaths false = some [] ∧ shadowPaths true = some [⟨["state", "k"]⟩] ∧
      compileSplit (.ofList [("k", ⟨8⟩)]) true ≠ compileSplit (.ofList [("k", ⟨8⟩)]) false := by
  intro shadowPaths
  have hoff : shadowPaths false = some [] := by decide +kernel
  have hon : shadowPaths true = some [⟨["state", "k"]⟩] := by decide +kernel
  refine ⟨hoff, hon, fun heq => ?_⟩
  have hsame : shadowPaths true = shadowPaths false := by simp only [shadowPaths, heq]
  rw [hon, hoff] at hsame
  cases hsame

end Mapper

end YangBind
