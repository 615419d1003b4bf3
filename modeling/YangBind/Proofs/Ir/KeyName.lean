import YangBind.Mapper.CamelCase
import YangBind.Proofs.Ir.Compilation
import YangBind.Proofs.Ir.DisplayName
import YangBind.Schema.Draft

/-! The two names of a list key. The emitted key has the name that the mapper gave, and the field of
the same leaf has that name freed of collisions. -/

namespace YangBind

variable {s : Schema} {m : Mapper} {opts : IrOptions} {d : Directory}

namespace CompiledDirectory

theorem find?_fields_rename (d : CompiledDirectory) (key : String) :
    d.rename.fields.find? key = (d.fields.find? key).map fun field =>
      { field with name := (d.displayNames.find? key).getD field.name } := by
  simp [rename]

theorem displayNames_find? (d : CompiledDirectory) (key : String) :
    d.displayNames.find? key = (d.rename.fields.find? key).map CompiledField.name := by
  have hkeys : key ∈ d.displayNames.keys ↔ key ∈ d.fields.keys := by
    simp [displayNames]
  rw [NameMap.mem_keys_iff, NameMap.mem_keys_iff] at hkeys
  rw [find?_fields_rename]
  cases hname : d.displayNames.find? key with
  | none =>
    cases hfield : d.fields.find? key with
    | none => rfl
    | some field => simp [hname, hfield] at hkeys
  | some name =>
    obtain ⟨field, hfield⟩ := hkeys.1 ⟨name, hname⟩
    simp [hfield]

/-- A field is renamed by underscores at its end, and by none exactly if no smaller key has a
display name that collides with the field's name. -/
theorem rename_find? {d : CompiledDirectory} {key : String} {field : CompiledField}
    (h : d.fields.find? key = some field) :
    ∃ n, d.rename.fields.find? key =
        some { field with name := field.name ++ DisplayName.underscores n } ∧
      (n = 0 ↔ ∀ j other, j < key → d.rename.fields.find? j = some other →
        DisplayName.fold other.name ≠ DisplayName.fold field.name) := by
  have hintended : (d.fields.map fun _ field => field.name).find? key = some field.name := by
    simp [h]
  obtain ⟨n, hname, hzero⟩ := DisplayName.assign_find? hintended
  refine ⟨n, ?_, hzero.trans ?_⟩
  · simp [find?_fields_rename, h, displayNames, hname]
  · constructor
    · intro hfree j other hlt hother
      have hgiven := d.displayNames_find? j
      rw [hother, Option.map_some] at hgiven
      exact hfree j _ hlt hgiven
    · intro hfree j other hlt hother
      have hrenamed := d.displayNames_find? j
      rw [displayNames, hother, eq_comm, Option.map_eq_some_iff] at hrenamed
      obtain ⟨field, hfield, rfl⟩ := hrenamed
      exact hfree j field hlt hfield

end CompiledDirectory

namespace Mapper

/-- A list whose two keys get the same name in camel case. -/
def twinKeys : Schema := (Draft.empty.run [
  .module "m",
  .add ⟨0⟩ (.list "l" ["th-e", "thE"]),
  .add ⟨1⟩ (.leaf "th-e" "string"),
  .add ⟨1⟩ (.leaf "thE" "string")]).2.schema

/-- The directory for the list, with its keys as fields. -/
def twinDirectory : Directory where
  name := "M_L"
  entry := ⟨1⟩
  path := ⟨["", "m", "l"]⟩
  fields := .ofList [("th-e", ⟨2⟩), ("thE", ⟨3⟩)]
  keyElems := some [⟨2⟩, ⟨3⟩]

def compileTwins : Except BindError (NameMap CompiledDirectory) :=
  (CamelCase.ofEnums []).mapper.compile twinKeys (.ofList [("/m/l", twinDirectory)]) {}

/-- A list key and the field of the same leaf have the same name exactly if no smaller key of the
directory got a name that collides with what the mapper calls the leaf. -/
theorem listKey_name_eq_iff {directories : NameMap Directory} {out : NameMap CompiledDirectory}
    (h : m.compile s directories opts = .ok out) {path : String}
    (hd : directories.find? path = some d) {l leaf : Node s} (hentry : d.entry = l.id)
    (hlist : l.entry.isList = true) {key : String} (hkey : key ∈ l.entry.keys)
    (hleaf : l.dataChild? key = some leaf) (hfield : d.fields.find? key = some leaf.id)
    (hkept : opts.skips leaf.entry.status = false) :
    ∃ parsed keys listKey field, out.find? path = some parsed ∧ parsed.listKeys = some keys ∧
      keys.find? key = some listKey ∧ parsed.fields.find? key = some field ∧
      m.fieldName leaf = .ok listKey.name ∧
      (∃ n, field.name = listKey.name ++ DisplayName.underscores n) ∧
      (listKey.name = field.name ↔ ∀ j other, j < key → parsed.fields.find? j = some other →
        DisplayName.fold other.name ≠ DisplayName.fold listKey.name) := by
  obtain ⟨parsed, hparsed, hout⟩ := compile_find? h hd
  obtain ⟨node, bare, hnode, hfields, hkeys, rfl⟩ := compileDirectory_ok hparsed
  rw [hentry, Directory.require_id] at hnode
  cases hnode
  obtain ⟨compiled, hcompiled, hfound⟩ := compileFields_find? hfields hfield hkept
  obtain ⟨keys, listKey, hlistKeys, hlistKey, hname, -⟩ :=
    compileKeys_find? hkeys hlist hkey hleaf
  obtain ⟨n, hrenamed, hzero⟩ := CompiledDirectory.rename_find? hfound
  have hsame : listKey.name = compiled.name := by
    rw [compileField_ok hcompiled] at hname
    exact (Except.ok.inj hname).symm
  refine ⟨_, keys, listKey, _, hout, hlistKeys, hlistKey, hrenamed, hname, ⟨n, by rw [hsame]⟩, ?_⟩
  rw [hsame, eq_comm, DisplayName.append_underscores_eq_self_iff, hzero]

theorem listKey_name_eq_iff_twins :
    ∃ out parsed keys listKey field, compileTwins = .ok out ∧ out.find? "/m/l" = some parsed ∧
      parsed.listKeys = some keys ∧ keys.find? "thE" = some listKey ∧
      parsed.fields.find? "thE" = some field ∧
      (listKey.name = field.name ↔ ∀ j other, j < "thE" → parsed.fields.find? j = some other →
        DisplayName.fold other.name ≠ DisplayName.fold listKey.name) := by
  have hok : compileTwins.isOk = true := by decide +kernel
  cases hout : compileTwins with
  | error e => simp [hout, Except.isOk, Except.toBool] at hok
  | ok out =>
    let l : Node twinKeys := (twinKeys.node? ⟨1⟩).get (by decide +kernel)
    let leaf : Node twinKeys := (twinKeys.node? ⟨3⟩).get (by decide +kernel)
    have hdir : (NameMap.ofList [("/m/l", twinDirectory)]).find? "/m/l" = some twinDirectory := by
      decide +kernel
    have hentry : twinDirectory.entry = l.id := by decide +kernel
    have hleaf : l.dataChild? "thE" = some leaf := by decide +kernel
    have hfield : twinDirectory.fields.find? "thE" = some leaf.id := by decide +kernel
    obtain ⟨parsed, keys, listKey, field, hparsed, hkeys, hkey, hfound, -, -, hiff⟩ :=
      listKey_name_eq_iff hout hdir hentry (by decide +kernel) (by decide +kernel) hleaf hfield
        (by decide +kernel)
    exact ⟨out, parsed, keys, listKey, field, rfl, hparsed, hkeys, hkey, hfound, hiff⟩

/-- The second of the two keys is emitted without the underscore that its field has. -/
theorem twin_key_differs_from_field :
    (compileTwins.toOption.bind (·.find? "/m/l")).map (fun parsed =>
      ((parsed.listKeys.bind (·.find? "thE")).map ListKey.name,
        (parsed.fields.find? "thE").map CompiledField.name)) =
      some (some "ThE", some "ThE_") := by
  decide +kernel

end Mapper

end YangBind
