import Mathlib.Data.List.Basic
import YangBind.Ir.Compile
import YangBind.Proofs.Directory.FieldPath
import YangBind.Proofs.Mapper.Script

/-! The script of a compilation. What a compilation checks and asks, and in which order, is fixed by
the schema, the directories and the options; the mapper only decides where it ends. -/

namespace YangBind

variable {s : Schema} {m : Mapper} {opts : IrOptions} {d : Directory}

namespace Schema

/-- The actions on the node at a place, which must be in the schema. -/
def scriptAt (s : Schema) (i : EntryId) (actions : Node s → List (Action s)) : List (Action s) :=
  match s.node? i with
  | none => [.check (.error (.unknownEntry i))]
  | some n => actions n

theorem scriptAt_id (n : Node s) (actions : Node s → List (Action s)) :
    s.scriptAt n.id actions = actions n := by
  simp [scriptAt, node?_eq_some_iff.2 rfl]

theorem checked_scriptAt {i : EntryId} {actions : Node s → List (Action s)} :
    Checked (s.scriptAt i actions) ↔ ∃ n : Node s, n.id = i ∧ Checked (actions n) := by
  cases h : s.node? i with
  | none =>
    have hout : ∀ n : Node s, n.id ≠ i := fun n hn => by simp [node?_eq_some_iff.2 hn] at h
    simp [scriptAt, h, hout]
  | some n =>
    obtain rfl := node?_eq_some_iff.1 h
    simp [scriptAt_id, Node.id_inj]

theorem mem_scriptAt {i : EntryId} {actions : Node s → List (Action s)} {a : Action s}
    (h : a ∈ s.scriptAt i actions) :
    (¬∃ n : Node s, n.id = i) ∧ a = .check (.error (.unknownEntry i)) ∨
      ∃ n : Node s, n.id = i ∧ a ∈ actions n := by
  cases hi : s.node? i with
  | none =>
    rw [scriptAt, hi] at h
    refine .inl ⟨?_, List.mem_singleton.1 h⟩
    rintro ⟨n, hn⟩
    cases hi.symm.trans (node?_eq_some_iff.2 hn)
  | some n =>
    obtain rfl := node?_eq_some_iff.1 hi
    rw [scriptAt_id] at h
    exact .inr ⟨n, rfl, h⟩

theorem performs_require {α : Type} {reply : Question s → Except MapperError Unit} {i : EntryId}
    {f : Node s → Traced α} {actions : Node s → List (Action s)}
    (h : ∀ n, n.id = i → (f n).Performs reply (actions n)) :
    ((s.require i : Traced (Node s)) >>= f).Performs reply (s.scriptAt i actions) := by
  cases hi : s.node? i with
  | none =>
    have hreq : s.require i = .error (.unknownEntry i) := by simp [require, hi]
    rw [hreq, scriptAt, hi]
    rfl
  | some n =>
    obtain rfl := node?_eq_some_iff.1 hi
    rw [Directory.require_id, scriptAt_id]
    exact h n rfl

end Schema

namespace Directory

/-- The question after the type of a field: none unless it is a leaf or leaf-list. -/
def typeQuestions (d : Directory) (node field : Node s) : List (Question s) :=
  match FieldKind.ofEntryKind field.kind with
  | .leaf | .leafList => [⟨if d.isKey node field then .keyLeafType else .leafType, field⟩]
  | .container | .list | .anyData => []

def fieldQuestions (d : Directory) (node field : Node s) : List (Question s) :=
  d.typeQuestions node field ++ [⟨.fieldName, field⟩, ⟨.fieldFlags, field⟩]

theorem node_of_mem_fieldQuestions {node field : Node s} {q : Question s}
    (h : q ∈ d.fieldQuestions node field) : q.node = field := by
  simp only [fieldQuestions, List.mem_append, List.mem_cons, List.not_mem_nil, or_false] at h
  obtain h | rfl | rfl := h
  · unfold typeQuestions at h
    cases hkind : FieldKind.ofEntryKind field.kind with
    | leaf | leafList =>
      rw [hkind] at h
      rw [List.mem_singleton.1 h]
    | container | list | anyData =>
      rw [hkind] at h
      cases h
  · rfl
  · rfl

/-- The actions on the field with this key and entry: none if the options leave it out. -/
def fieldScript (s : Schema) (opts : IrOptions) (d : Directory) (node : Node s)
    (field : String × EntryId) : List (Action s) :=
  s.scriptAt field.2 fun n =>
    if opts.skips n.entry.status then []
    else [.check (verdict (d.mappedPaths s field.1 opts.compressPaths .primary opts.pathMode)),
        .check (verdict (d.shadowPaths s field.1 opts))] ++
      (d.fieldQuestions node n).map .ask

end Directory

namespace Node

def keyQuestions (node : Node s) : List (Question s) :=
  if node.entry.isList then
    (node.entry.keys.filterMap node.dataChild?).flatMap fun leaf =>
      [⟨.fieldName, leaf⟩, ⟨.keyLeafType, leaf⟩]
  else []

end Node

namespace Directory

def script (s : Schema) (opts : IrOptions) (d : Directory) : List (Action s) :=
  s.scriptAt d.entry fun node =>
    d.fields.entries.flatMap (d.fieldScript s opts node) ++
      .ask ⟨.packageName, node⟩ :: node.keyQuestions.map .ask

theorem script_eq {node : Node s} (h : node.id = d.entry) : d.script s opts =
    d.fields.entries.flatMap (d.fieldScript s opts node) ++
      .ask ⟨.packageName, node⟩ :: node.keyQuestions.map .ask := by
  rw [script, ← h, Schema.scriptAt_id]

end Directory

namespace Schema

/-- The actions of a compilation, directory by directory in ascending order of their keys. -/
def script (s : Schema) (opts : IrOptions) (directories : NameMap Directory) : List (Action s) :=
  directories.entries.flatMap fun e => e.2.script s opts

end Schema

namespace Mapper

theorem performs_fieldType (m : Mapper) (opts : IrOptions) (d : Directory) (node field : Node s) :
    (m.fieldType opts d node field).Performs (m.reply opts)
      ((d.typeQuestions node field).map .ask) := by
  unfold fieldType Directory.typeQuestions
  cases FieldKind.ofEntryKind field.kind with
  | leaf | leafList =>
    dsimp only
    split
    · exact Traced.performs_ask rfl
    · exact Traced.performs_ask rfl
  | container | list | anyData => exact Traced.performs_pure none

theorem performs_compileField (m : Mapper) (opts : IrOptions) (d : Directory) (node : Node s)
    (key : String) (field : Node s) :
    (m.compileField opts d node key field).Performs (m.reply opts)
      ([.check (verdict (d.mappedPaths s key opts.compressPaths .primary opts.pathMode)),
        .check (verdict (d.shadowPaths s key opts))] ++
          (d.fieldQuestions node field).map .ask) := by
  rw [Directory.fieldQuestions, List.map_append]
  refine (Traced.performs_ofExcept _).bind fun mapped _ => ?_
  refine (Traced.performs_ofExcept _).bind fun shadow _ => ?_
  refine (performs_fieldType m opts d node field).bind fun langType _ => ?_
  refine (Traced.performs_ask (by rfl)).bind fun name _ => ?_
  exact (Traced.performs_ask (by rfl)).bind_pure _

theorem performs_compileFields (m : Mapper) (opts : IrOptions) (d : Directory) (node : Node s) :
    (m.compileFields opts d node).Performs (m.reply opts)
      (d.fields.entries.flatMap (d.fieldScript s opts node)) := by
  refine (Traced.performs_collect fun ⟨key, i⟩ _ => ?_).bind_pure _
  refine Schema.performs_require fun field _ => ?_
  split
  · exact Traced.performs_pure []
  · exact (performs_compileField m opts d node key field).bind_pure _

theorem performs_compileKeys (m : Mapper) (opts : IrOptions) (node : Node s) :
    (m.compileKeys opts node).Performs (m.reply opts) (node.keyQuestions.map .ask) := by
  unfold compileKeys Node.keyQuestions
  cases node.entry.isList with
  | false => exact Traced.performs_pure none
  | true =>
    rw [if_pos rfl, List.filterMap_eq_flatMap_toList, List.flatMap_assoc, List.map_flatMap]
    refine (Traced.performs_collect fun name _ => ?_).bind_pure _
    cases node.dataChild? name with
    | none => exact Traced.performs_pure []
    | some leaf =>
      refine (Traced.performs_ask (by rfl)).bind fun keyName _ => ?_
      exact (Traced.performs_ask (by rfl)).bind_pure _

theorem performs_compileDirectory (m : Mapper) (s : Schema) (opts : IrOptions) (d : Directory) :
    (m.compileDirectory s opts d).Performs (m.reply opts) (d.script s opts) := by
  refine Schema.performs_require fun node _ => ?_
  refine (performs_compileFields m opts d node).bind fun fields _ => ?_
  refine (Traced.performs_ask (by rfl)).bind fun packageName _ => ?_
  exact (performs_compileKeys m opts node).bind_pure _

theorem performs_compileTraced (m : Mapper) (s : Schema) (directories : NameMap Directory)
    (opts : IrOptions) :
    (m.compileTraced s directories opts).Performs (m.reply opts) (s.script opts directories) := by
  refine (Traced.performs_collect fun ⟨path, d⟩ _ => ?_).bind_pure _
  exact (performs_compileDirectory m s opts d).bind_pure _

end Mapper

end YangBind
