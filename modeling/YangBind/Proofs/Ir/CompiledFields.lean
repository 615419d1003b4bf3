import YangBind.Proofs.Ir.Compilable
import YangBind.Proofs.Ir.KeyName

/-! Where the fields of a compiled directory come from. Each of them is a field that the options
leave in, compiled on its own and given a display name, and every such field is among them. -/

namespace YangBind.Mapper

variable {s : Schema} {m : Mapper} {opts : IrOptions} {d : Directory}
  {directories : NameMap Directory} {out : NameMap CompiledDirectory} {path key : String}

/-- Where a field that stays ends up: in the compiled directory, under a display name. -/
theorem exists_compiled_of_keeps (h : m.compile s directories opts = .ok out) {field : Node s}
    (hd : directories.find? path = some d) (hkeeps : d.Keeps opts key field) :
    ∃ (node : Node s) (parsed : CompiledDirectory) (compiled : CompiledField) (name : String),
      node.id = d.entry ∧ out.find? path = some parsed ∧
      parsed.fields.find? key = some { compiled with name } ∧
      (m.compileField opts d node key field).outcome = .ok compiled := by
  obtain ⟨parsed, hparsed, hout⟩ := compile_find? h hd
  obtain ⟨node, bare, hnode, hfields, -, rfl⟩ := compileDirectory_ok hparsed
  obtain ⟨compiled, hcompiled, hfound⟩ := compileFields_find? hfields hkeeps.1 hkeeps.2
  obtain ⟨n, hrenamed, -⟩ := CompiledDirectory.rename_find? hfound
  exact ⟨node, _, compiled, _, Directory.require_eq_ok_iff.1 hnode, hout, hrenamed, hcompiled⟩

theorem exists_compiled_of_entry (h : m.compile s directories opts = .ok out)
    (hd : directories.find? path = some d) {n field : Node s} (hentry : d.entry = n.id)
    (hkeeps : d.Keeps opts key field) :
    ∃ (parsed : CompiledDirectory) (compiled : CompiledField) (name : String),
      out.find? path = some parsed ∧ parsed.fields.find? key = some { compiled with name } ∧
      (m.compileField opts d n key field).outcome = .ok compiled := by
  obtain ⟨node, parsed, compiled, name, hnode, hout, hfield, hcompiled⟩ :=
    exists_compiled_of_keeps h hd hkeeps
  obtain rfl : node = n := Node.id_inj.1 (hnode.trans hentry)
  exact ⟨parsed, compiled, name, hout, hfield, hcompiled⟩

theorem exists_keeps_of_compiled (h : m.compile s directories opts = .ok out)
    (hd : directories.find? path = some d) {parsed : CompiledDirectory}
    (hparsed : out.find? path = some parsed) {field : CompiledField}
    (hfield : parsed.fields.find? key = some field) :
    ∃ n : Node s, d.Keeps opts key n := by
  obtain ⟨_, hdir, hout⟩ := compile_find? h hd
  obtain rfl := Option.some.inj (hout.symm.trans hparsed)
  obtain ⟨node, bare, -, hfields, -, rfl⟩ := compileDirectory_ok hdir
  rw [CompiledDirectory.find?_fields_rename, Option.map_eq_some_iff] at hfield
  obtain ⟨compiled, hcompiled, -⟩ := hfield
  obtain ⟨n, hn, hkept, -⟩ := exists_of_compileFields_find? hfields hcompiled
  exact ⟨n, hn, hkept⟩

end YangBind.Mapper
