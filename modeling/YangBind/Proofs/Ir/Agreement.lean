import YangBind.Proofs.Ir.Compilable
import YangBind.Proofs.Mapper.Agreement

/-! One compilation under two sets of options. If the two agree on every field that stays up to a
relation that the names do not enter, on the keys of lists and on whether there is a package, then
they agree on every directory: the compiled directories differ in their packages and their fields
alone, and the fields are related. -/

namespace YangBind

variable {s : Schema} {m : Mapper} {o o' : IrOptions} {d : Directory} {node : Node s}
  {R : CompiledField → CompiledField → Prop}

namespace CompiledField

/-- A relation of compiled fields that makes their names equal and is kept when both are renamed. -/
structure RespectsNames (R : CompiledField → CompiledField → Prop) : Prop where
  name_eq {a b : CompiledField} : R a b → a.name = b.name
  rename {a b : CompiledField} (name : String) : R a b → R { a with name } { b with name }

theorem respectsNames_eq : RespectsNames Eq where
  name_eq h := congrArg name h
  rename name h := by rw [h]

end CompiledField

namespace CompiledDirectory

/-- Whether two compiled directories are the same but for their packages and their fields, which are
related key by key. -/
def SameButPackage (R : CompiledField → CompiledField → Prop) (a b : CompiledDirectory) : Prop :=
  NameMap.Related (fun _ => R) a.fields b.fields ∧
    b = { a with fields := b.fields, packageName := b.packageName }

/-- Whether two compiled directories are the same but for their fields, which are related key by
key. -/
def FieldsRelated (R : CompiledField → CompiledField → Prop) (a b : CompiledDirectory) : Prop :=
  NameMap.Related (fun _ => R) a.fields b.fields ∧ b = { a with fields := b.fields }

theorem FieldsRelated.eq {a b : CompiledDirectory} (h : FieldsRelated Eq a b) : a = b := by
  rw [h.2, ← NameMap.related_eq_iff.1 h.1]

namespace SameButPackage

variable {a b : CompiledDirectory} (h : SameButPackage R a b)

include h

theorem fieldsRelated (hname : a.packageName = b.packageName) : FieldsRelated R a b := by
  refine ⟨h.1, ?_⟩
  conv_lhs => rw [h.2, ← hname]

theorem displayNames_eq (hR : CompiledField.RespectsNames R) : a.displayNames = b.displayNames := by
  have hnames : NameMap.Related (fun _ => Eq) (a.fields.map fun _ field => field.name)
      (b.fields.map fun _ field => field.name) :=
    h.1.map fun _ _ _ => hR.name_eq
  rw [displayNames, displayNames, NameMap.related_eq_iff.1 hnames]

theorem rename (hR : CompiledField.RespectsNames R) : SameButPackage R a.rename b.rename := by
  have hnames := h.displayNames_eq hR
  refine ⟨h.1.map fun key x y hxy => ?_, ?_⟩
  · rw [← hnames, ← hR.name_eq hxy]
    exact hR.rename _ hxy
  · rw [h.2]
    rfl

end SameButPackage

end CompiledDirectory

namespace Mapper

theorem agree_compileFields (hskips : ∀ status, o.skips status = o'.skips status)
    (h : ∀ key field, d.Keeps o key field → Agree R
      (m.compileField o d node key field).outcome (m.compileField o' d node key field).outcome) :
    Agree (NameMap.Related fun _ => R) (m.compileFields o d node).outcome
      (m.compileFields o' d node).outcome := by
  refine Traced.agree_bind (Traced.agree_collect ?_) fun _ _ hpairs =>
    .ok (NameMap.related_ofList hpairs)
  rintro ⟨key, i⟩ hmem
  refine Traced.agree_bind_self _ fun field hfield => ?_
  obtain rfl := Directory.require_eq_ok_iff.1 hfield
  rw [← hskips]
  split
  case isTrue => exact .ok .nil
  case isFalse hkept =>
    have hkeeps : d.Keeps o key field := ⟨NameMap.find?_eq_some_iff.2 hmem, by simpa using hkept⟩
    exact Traced.agree_bind (h key field hkeeps) fun _ _ hab => .ok (.cons ⟨rfl, hab⟩ .nil)

/-- The keys of a list do not depend on the options but for their types. -/
theorem compileKeys_congr_options (h : node.entry.isList = true → ∀ key ∈ node.entry.keys,
      ∀ leaf, node.dataChild? key = some leaf → m.keyLeafType leaf o = m.keyLeafType leaf o') :
    m.compileKeys o node = m.compileKeys o' node := by
  unfold compileKeys
  cases hlist : node.entry.isList with
  | false => rfl
  | true =>
    congr 2
    refine Traced.collect_congr fun key hkey => ?_
    cases hleaf : node.dataChild? key with
    | none => rfl
    | some leaf => simp only [askKeyLeafType, h hlist key hkey leaf hleaf]

theorem agree_compileDirectory_of_packages {P : String → String → Prop}
    (hR : CompiledField.RespectsNames R) (hskips : ∀ status, o.skips status = o'.skips status)
    (hfields : ∀ node : Node s, node.id = d.entry → ∀ key field, d.Keeps o key field → Agree R
      (m.compileField o d node key field).outcome (m.compileField o' d node key field).outcome)
    (hkeys : ∀ node : Node s, node.id = d.entry → m.compileKeys o node = m.compileKeys o' node)
    (hpackage : ∀ node : Node s, node.id = d.entry → Agree P
      (m.askPackageName node o.transformOptions.compressBehaviour o.nestedDirectories).outcome
      (m.askPackageName node o'.transformOptions.compressBehaviour o'.nestedDirectories).outcome) :
    Agree (fun a b => CompiledDirectory.SameButPackage R a b ∧ P a.packageName b.packageName)
      (m.compileDirectory s o d).outcome (m.compileDirectory s o' d).outcome := by
  refine Traced.agree_bind_self _ fun node hnode => ?_
  have hentry := Directory.require_eq_ok_iff.1 hnode
  refine Traced.agree_bind (agree_compileFields hskips (hfields node hentry)) fun a b hab => ?_
  refine Traced.agree_bind (hpackage node hentry) fun _ _ hnames => ?_
  rw [← hkeys node hentry]
  refine Traced.agree_bind_self _ fun listKeys _ => .ok ⟨?_, hnames⟩
  exact CompiledDirectory.SameButPackage.rename ⟨hab, rfl⟩ hR

/-- Where the packages are asked for alike, they are the same. -/
theorem agree_compileDirectory (hR : CompiledField.RespectsNames R)
    (hopts : o.transformOptions = o'.transformOptions)
    (hnested : o.nestedDirectories = o'.nestedDirectories)
    (hfields : ∀ node : Node s, node.id = d.entry → ∀ key field, d.Keeps o key field → Agree R
      (m.compileField o d node key field).outcome (m.compileField o' d node key field).outcome)
    (hkeys : ∀ node : Node s, node.id = d.entry → m.compileKeys o node = m.compileKeys o' node) :
    Agree (CompiledDirectory.FieldsRelated R) (m.compileDirectory s o d).outcome
      (m.compileDirectory s o' d).outcome := by
  have hskips : ∀ status, o.skips status = o'.skips status := by
    intro status
    cases status <;> simp [IrOptions.skips, hopts]
  refine Agree.mono (fun a b hab => hab.1.fieldsRelated hab.2)
    (agree_compileDirectory_of_packages (P := Eq) hR hskips hfields hkeys fun node _ => ?_)
  rw [hopts, hnested]
  exact .refl (fun _ => rfl) _

theorem agree_compile {directories : NameMap Directory}
    {S : Directory → CompiledDirectory → CompiledDirectory → Prop}
    (h : ∀ path d, directories.find? path = some d →
      Agree (S d) (m.compileDirectory s o d).outcome (m.compileDirectory s o' d).outcome) :
    Agree (NameMap.Related fun path a b => ∃ d, directories.find? path = some d ∧ S d a b)
      (m.compile s directories o) (m.compile s directories o') := by
  refine Traced.agree_bind (Traced.agree_collect ?_) fun _ _ hpairs =>
    .ok (NameMap.related_ofList hpairs)
  rintro ⟨path, d⟩ hmem
  have hd := NameMap.find?_eq_some_iff.2 hmem
  exact Traced.agree_bind (h path d hd) fun _ _ hab => .ok (.cons ⟨rfl, d, hd, hab⟩ .nil)

end Mapper

end YangBind
