import YangBind.Options
import YangBind.Ir.Basic
import YangBind.Schema.PathExpr
import YangBind.Mapper.Traced

/-! Mappers take the decisions that depend on the target language: names, types and annotations.
A compilation puts its questions to the mapper it is given and looks no further into it. -/

namespace YangBind

structure Mapper where
  fieldName : {s : Schema} → Node s → Except MapperError String
  directoryName : {s : Schema} → Node s → CompressBehaviour → Except MapperError String
  keyLeafType : {s : Schema} → Node s → IrOptions → Except MapperError (Option MappedType)
  leafType : {s : Schema} → Node s → IrOptions → Except MapperError (Option MappedType)
  /-- The package that the directory for a node belongs to; the flag tells whether packages nest. -/
  packageName : {s : Schema} → Node s → CompressBehaviour → Bool → Except MapperError String
  /-- Annotations of a compiled field, which has none yet. -/
  fieldFlags : {s : Schema} → CompiledField → Node s → Flags := fun _ _ => .empty
  enumFlags : EnumeratedType → Flags := fun _ => .empty

namespace Mapper

variable {s : Schema} {α : Type}

/-- One question and its answer. -/
def ask (method : MapperMethod) (n : Node s) (answer : Except MapperError α) : Traced α :=
  ⟨answer.mapError .mapper, [⟨method, n.id⟩]⟩

theorem outcome_ask_eq_ok_iff {method : MapperMethod} {n : Node s}
    {answer : Except MapperError α} {a : α} :
    (ask method n answer).outcome = .ok a ↔ answer = .ok a := by
  constructor
  · intro h
    cases answer with
    | error e => cases h
    | ok x =>
      cases h
      rfl
  · rintro rfl
    rfl

def askFieldName (m : Mapper) (n : Node s) : Traced String :=
  ask .fieldName n (m.fieldName n)

def askDirectoryName (m : Mapper) (n : Node s) (compress : CompressBehaviour) : Traced String :=
  ask .directoryName n (m.directoryName n compress)

def askKeyLeafType (m : Mapper) (n : Node s) (opts : IrOptions) : Traced (Option MappedType) :=
  ask .keyLeafType n (m.keyLeafType n opts)

def askLeafType (m : Mapper) (n : Node s) (opts : IrOptions) : Traced (Option MappedType) :=
  ask .leafType n (m.leafType n opts)

def askPackageName (m : Mapper) (n : Node s) (compress : CompressBehaviour) (nested : Bool) :
    Traced String :=
  ask .packageName n (m.packageName n compress nested)

def askFieldFlags (m : Mapper) (field : CompiledField) (n : Node s) : Traced Flags :=
  ask .fieldFlags n (.ok (m.fieldFlags field n))

end Mapper

end YangBind
