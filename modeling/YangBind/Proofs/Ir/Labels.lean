import YangBind.Proofs.Directory.PathModules
import YangBind.Proofs.Ir.CompiledFields
import YangBind.Proofs.Ir.PathMode

/-! Options that only label the output: the origin of paths, how the schema was folded and whether
packages nest. A mapper that looks at them for the names of packages alone gives one output under
all of them, up to these labels, and fails alike. -/

namespace YangBind

variable {s : Schema} {m : Mapper} {o o' : IrOptions} {d : Directory}
  {directories : NameMap Directory} {out : NameMap CompiledDirectory} {path key : String}

namespace IrOptions

/-- Whether two sets of options differ at most in the origin of paths, in how the schema was folded
and in whether packages nest. -/
def SameButLabels (o o' : IrOptions) : Prop :=
  o' = { o with
    pathOriginName := o'.pathOriginName
    useModuleNameAsPathOrigin := o'.useModuleNameAsPathOrigin
    transformOptions := { o.transformOptions with
      compressBehaviour := o'.transformOptions.compressBehaviour }
    nestedDirectories := o'.nestedDirectories }

namespace SameButLabels

variable (h : o.SameButLabels o')

include h

theorem skips_eq (status : Status) : o.skips status = o'.skips status := by
  rw [h]
  cases status <;> rfl

theorem compressPaths_eq : o.compressPaths = o'.compressPaths := by rw [h]

theorem pathMode_eq : o.pathMode = o'.pathMode := by
  rw [h]
  rfl

theorem shadowPaths_eq (s : Schema) (d : Directory) (key : String) :
    d.shadowPaths s key o = d.shadowPaths s key o' := by
  rw [h]
  rfl

end SameButLabels

end IrOptions

namespace CompiledField

/-- Whether two compiled fields are the same but for the origin of their paths. -/
def SameButOrigin (a b : CompiledField) : Prop :=
  b = { a with facts := { a.facts with origin := b.facts.origin } }

theorem respectsNames_sameButOrigin : RespectsNames SameButOrigin where
  name_eq h := (congrArg name h).symm
  rename name h := by
    unfold SameButOrigin
    conv_lhs => rw [h]

end CompiledField

namespace Mapper

theorem compileField_sameButLabels (hm : m.IsBlind s) (h : o.SameButLabels o')
    (node field : Node s) :
    Agree CompiledField.SameButOrigin (m.compileField o d node key field).outcome
      (m.compileField o' d node key field).outcome := by
  unfold compileField
  rw [h.compressPaths_eq, h.pathMode_eq, h.shadowPaths_eq]
  refine Traced.agree_bind_self _ fun mapped _ => ?_
  refine Traced.agree_bind_self _ fun shadow _ => ?_
  rw [fieldType_of_isBlind hm o o']
  refine Traced.agree_bind_self _ fun langType _ => ?_
  refine Traced.agree_bind_self _ fun name _ => .ok ?_
  exact congrArg (CompiledField.mk _ _ _ _ _ _ _ _) (hm.fieldFlags field _ _)

/-- The origin of a compiled field is told by the options and the field's own node. -/
theorem origin_of_compile (h : m.compile s directories o = .ok out) {parsed : CompiledDirectory}
    (hparsed : out.find? path = some parsed) {field : CompiledField}
    (hfield : parsed.fields.find? key = some field) :
    ∃ (d : Directory) (n : Node s), directories.find? path = some d ∧
      d.fields.find? key = some n.id ∧ field.facts.origin = o.originOf n := by
  obtain ⟨d, hd, -⟩ := exists_of_compile_find? h hparsed
  obtain ⟨n, hkeeps⟩ := exists_keeps_of_compiled h hd hparsed hfield
  obtain ⟨node, parsed', compiled, name, -, hout, hcompiled, hfieldOf⟩ :=
    exists_compiled_of_keeps h hd hkeeps
  obtain rfl := Option.some.inj (hparsed.symm.trans hout)
  obtain rfl := Option.some.inj (hfield.symm.trans hcompiled)
  obtain ⟨_, _, -, -, -, -, hparts⟩ := compileField_eq_ok hfieldOf
  exact ⟨d, n, hd, hkeeps.1, by rw [hparts]; rfl⟩

/-- Packages are asked for with the options, so the mapper must not refuse any. -/
theorem compileDirectory_sameButLabels (hm : m.IsBlind s)
    (hpackage : ∀ (n : Node s) compress nested, ∃ name, m.packageName n compress nested = .ok name)
    (h : o.SameButLabels o') (d : Directory) :
    Agree (CompiledDirectory.SameButPackage CompiledField.SameButOrigin)
      (m.compileDirectory s o d).outcome (m.compileDirectory s o' d).outcome := by
  refine Agree.mono (fun _ _ hab => hab.1) (agree_compileDirectory_of_packages
    (P := fun _ _ => True) CompiledField.respectsNames_sameButOrigin h.skips_eq ?_ ?_ ?_)
  · exact fun node _ key field _ => compileField_sameButLabels hm h node field
  · exact fun node _ => compileKeys_congr_options fun _ _ _ leaf _ => hm.keyLeafType leaf o o'
  · intro node _
    obtain ⟨name, hname⟩ :=
      hpackage node o.transformOptions.compressBehaviour o.nestedDirectories
    obtain ⟨name', hname'⟩ :=
      hpackage node o'.transformOptions.compressBehaviour o'.nestedDirectories
    rw [askPackageName, askPackageName, hname, hname']
    exact .ok trivial

/-- The list whose key leaf another module adds in a choice, compiled under these options. -/
def compileAugmented (o : IrOptions) : Except BindError (NameMap CompiledDirectory) :=
  (CamelCase.ofEnums []).mapper.compile Directory.augmentedList
    (.ofList [("/a/l", Directory.augmentedDirectory)]) o

/-- Options that label the output with modules, for a folded schema. -/
def byModule : IrOptions where
  useModuleNameAsPathOrigin := true
  transformOptions := { compressBehaviour := .preferIntendedConfig }
  nestedDirectories := true

/-- The options that label the output change its labels alone, that is the packages of directories
and the origins of fields, and whether it fails and how does not depend on them. The origin of a
field is the one that the options name, or else its own module if they say so. -/
theorem compile_labels (c : CamelCase) (directories : NameMap Directory) :
    (∀ o o' : IrOptions, o.SameButLabels o' →
      Agree (NameMap.Related fun _ => CompiledDirectory.SameButPackage CompiledField.SameButOrigin)
        (c.mapper.compile s directories o) (c.mapper.compile s directories o')) ∧
    ∀ (o : IrOptions) (out : NameMap CompiledDirectory),
      c.mapper.compile s directories o = .ok out →
      ∀ path parsed key field, out.find? path = some parsed →
        parsed.fields.find? key = some field →
        ∃ (d : Directory) (n : Node s), directories.find? path = some d ∧
          d.fields.find? key = some n.id ∧
          field.facts.origin =
            if o.pathOriginName ≠ "" then o.pathOriginName
            else if o.useModuleNameAsPathOrigin then n.module
            else "" := by
  constructor
  · intro o o' h
    have hdirs : ∀ path d, directories.find? path = some d →
        Agree (CompiledDirectory.SameButPackage CompiledField.SameButOrigin)
          (c.mapper.compileDirectory s o d).outcome (c.mapper.compileDirectory s o' d).outcome :=
      fun _ d _ => compileDirectory_sameButLabels (c.isBlind_mapper s) (fun _ _ _ => ⟨_, rfl⟩) h d
    exact (agree_compile hdirs).mono fun _ _ hab => hab.mono fun _ _ _ ⟨_, _, hsame⟩ => hsame
  · intro o out h path parsed key field hparsed hfield
    exact origin_of_compile h hparsed hfield

theorem compile_labels_augmentedList :
    ∃ out out', compileAugmented {} = .ok out ∧ compileAugmented byModule = .ok out' ∧
      NameMap.Related (fun _ => CompiledDirectory.SameButPackage CompiledField.SameButOrigin)
        out out' ∧
      ∃ parsed field, out'.find? "/a/l" = some parsed ∧ parsed.fields.find? "k" = some field ∧
        field.facts.origin = "d" := by
  obtain ⟨hsame, horigin⟩ := compile_labels (s := Directory.augmentedList) (CamelCase.ofEnums [])
    (.ofList [("/a/l", Directory.augmentedDirectory)])
  have hbare : (compileAugmented {}).toOption.isSome = true := by decide +kernel
  have hfield : ((compileAugmented byModule).toOption.bind fun out =>
      (out.find? "/a/l").bind fun parsed => parsed.fields.find? "k").isSome = true := by
    decide +kernel
  have hmodule : ∀ n ∈ Directory.augmentedList.nodes, n.id = ⟨5⟩ → n.module = "d" := by
    decide +kernel
  obtain ⟨out, hout⟩ := Option.isSome_iff_exists.1 hbare
  obtain ⟨field, hfield⟩ := Option.isSome_iff_exists.1 hfield
  obtain ⟨out', hout', hfield⟩ := Option.bind_eq_some_iff.1 hfield
  obtain ⟨parsed, hparsed, hfield⟩ := Option.bind_eq_some_iff.1 hfield
  have hout := toOption_eq_some_iff.1 hout
  have hout' := toOption_eq_some_iff.1 hout'
  obtain ⟨d, n, hd, hn, hfrom⟩ := horigin byModule out' hout' "/a/l" parsed "k" field hparsed hfield
  obtain rfl : Directory.augmentedDirectory = d := by simpa [NameMap.ofList] using hd
  have hid : n.id = ⟨5⟩ := by simpa [Directory.augmentedDirectory, NameMap.ofList] using hn.symm
  refine ⟨out, out', hout, hout', (hsame {} byModule rfl).of_ok hout hout', parsed, field, hparsed,
    hfield, ?_⟩
  rw [hfrom]
  exact hmodule n (Node.mem_nodes n) hid

end Mapper

end YangBind
