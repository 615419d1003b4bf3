import YangBind.Mapper.CamelCase
import YangBind.Proofs.Schema.KeyLeaves

/-! The scalar type of a leaf and of what its leafref leads to. The search for the type may follow
only so many leafrefs; where it ends well, it ends so with any larger number too. Hence a leafref
whose type is found has the type that its target has on its own. -/

namespace YangBind.CamelCase

variable {s : Schema} {c : CamelCase} {hops : Nat} {n leaf e : Node s} {t : MappedType}

/-- A type is found at the end of the chain, where a leaf has a named type that is known. -/
theorem scalarType_eq_ok_iff : c.scalarType hops n = .ok t ↔
    (∃ name, n.entry.leafType = some (.named name) ∧ c.namedType? name = some t) ∨
      ∃ path fewer target, n.entry.leafType = some (.leafref path) ∧ hops = fewer + 1 ∧
        n.leafrefTarget? = some target ∧ c.scalarType fewer target = .ok t := by
  rw [scalarType.eq_def]
  cases n.entry.leafType with
  | none => simp
  | some type =>
    cases type with
    | named name => cases h : c.namedType? name <;> simp [h]
    | leafref path =>
      cases hops with
      | zero => simp
      | succ fewer => cases n.leafrefTarget? <;> simp

/-- One more leafref in the chain does no harm. -/
theorem scalarType_succ (h : c.scalarType hops n = .ok t) : c.scalarType (hops + 1) n = .ok t := by
  induction hops generalizing n with
  | zero =>
    obtain hnamed | ⟨path, fewer, target, -, hzero, -⟩ := scalarType_eq_ok_iff.1 h
    · exact scalarType_eq_ok_iff.2 (.inl hnamed)
    · cases hzero
  | succ hops ih =>
    obtain hnamed | ⟨path, fewer, target, htype, hfewer, htarget, ht⟩ := scalarType_eq_ok_iff.1 h
    · exact scalarType_eq_ok_iff.2 (.inl hnamed)
    · cases hfewer
      exact scalarType_eq_ok_iff.2 (.inr ⟨path, _, target, htype, rfl, htarget, ih ht⟩)

theorem scalar_eq_ok_iff : c.scalar n = .ok t ↔ c.scalarType maxChain n = .ok t := by
  unfold scalar
  cases c.scalarType maxChain n <;> simp [Except.mapError]

variable {opts : IrOptions} {answer : Option MappedType} {cause : MapperError}

theorem keyLeafType_eq_ok_iff : c.mapper.keyLeafType n opts = .ok answer ↔
    ∃ scalar, c.scalar n = .ok scalar ∧ answer = some scalar := by
  change some <$> c.scalar n = .ok answer ↔ _
  cases c.scalar n <;> simp [Functor.map, Except.map, eq_comm]

theorem keyLeafType_eq_error_iff : c.mapper.keyLeafType n opts = .error cause ↔
    ∃ e, c.scalarType maxChain n = .error e ∧ cause = ⟨e.message⟩ := by
  change some <$> c.scalar n = .error cause ↔ _
  unfold scalar
  cases c.scalarType maxChain n <;> simp [Functor.map, Except.map, Except.mapError, eq_comm]

/-- What a leaf stands for has the type of the leaf, with one leafref less to follow. -/
theorem scalar_of_standsFor (h : leaf.StandsFor e) (ht : c.scalar leaf = .ok t) :
    c.scalar e = .ok t := by
  unfold Node.StandsFor at h
  split at h
  case h_1 path hpath =>
    rw [scalar_eq_ok_iff, scalarType_eq_ok_iff] at ht
    obtain ⟨name, htype, -⟩ | ⟨-, fewer, target, -, hfewer, htarget, ht⟩ := ht
    · simp [Entry.leafrefPath?, htype, LeafType.leafrefPath?] at hpath
    · obtain rfl : target = e := by
        simpa [Node.leafrefTarget?, hpath, h, eq_comm] using htarget
      rw [scalar_eq_ok_iff, hfewer]
      exact scalarType_succ ht
  case h_2 => exact h ▸ ht

end YangBind.CamelCase
