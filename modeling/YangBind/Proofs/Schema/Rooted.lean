import YangBind.Proofs.Schema.Forest

/-! The parent links of a schema lead up to its modules, and siblings have different names. Unlike
the child links this holds of every schema that steps build: an entry too many for its number to
fit cannot be referred to, and adding it changes no parent, kind or name. -/

namespace YangBind

namespace Schema

variable {s t : Schema}

/-- What the parent links and the names have to satisfy. The modules are siblings of each other. -/
structure IsRooted (s : Schema) : Prop where
  parent_lt : ∀ {i p e}, s.entry? i = some e → e.parent = some p → p.index < i.index
  siblings_eq : ∀ {i j a b}, s.entry? i = some a → s.entry? j = some b →
    a.parent = b.parent → a.name = b.name → i = j
  kind_of_root : ∀ {i e}, s.entry? i = some e → e.parent = none → e.kind = .module

theorem IsForest.isRooted (hf : s.IsForest) : s.IsRooted where
  parent_lt := hf.parent_lt
  siblings_eq := by
    intro i j a b hi hj hab hname
    cases hp : a.parent with
    | some p => exact hf.siblings_eq hi hj hp (hab ▸ hp) hname
    | none =>
      have hindex := hf.find?_moduleIndex.2 ⟨a, hi, hp, rfl⟩
      rw [hf.find?_moduleIndex.2 ⟨b, hj, hab ▸ hp, hname.symm⟩] at hindex
      exact (Option.some.inj hindex).symm
  kind_of_root := hf.kind_of_root

/-- Entries that differ in their children alone are as good. -/
theorem IsRooted.of_entries (hr : s.IsRooted)
    (h : ∀ {i e}, t.entry? i = some e → ∃ e₀, s.entry? i = some e₀ ∧
      e₀.name = e.name ∧ e₀.kind = e.kind ∧ e₀.parent = e.parent) : t.IsRooted where
  parent_lt := by
    intro i p e hi hp
    obtain ⟨e₀, hi₀, -, -, hparent⟩ := h hi
    exact hr.parent_lt hi₀ (hparent.trans hp)
  siblings_eq := by
    intro i j a b hi hj hab hname
    obtain ⟨a₀, hi₀, haname, -, haparent⟩ := h hi
    obtain ⟨b₀, hj₀, hbname, -, hbparent⟩ := h hj
    exact hr.siblings_eq hi₀ hj₀ (by rw [haparent, hab, hbparent]) (by rw [haname, hname, hbname])
  kind_of_root := by
    intro i e hi hp
    obtain ⟨e₀, hi₀, -, hkind, hparent⟩ := h hi
    exact hkind ▸ hr.kind_of_root hi₀ (hparent.trans hp)

end Schema

namespace Draft

open Schema (Step)

variable {d d' : Draft} {id : EntryId}

/-- A step beyond the last number leaves the entries as they are, but for their children. -/
theorem entry?_step_of_full {step : Step} (hs : UInt32.size ≤ d.schema.size)
    (h : d.step step = .ok (id, d')) {i : EntryId} {e : Entry}
    (hi : d'.schema.entry? i = some e) :
    ∃ e₀, d.schema.entry? i = some e₀ ∧ e₀.name = e.name ∧ e₀.kind = e.kind ∧
      e₀.parent = e.parent := by
  have hne : i.index ≠ d.schema.entries.size :=
    Nat.ne_of_lt (Nat.lt_of_lt_of_le (UInt32.toNat_lt i.raw) hs)
  cases step with
  | module name =>
    obtain ⟨-, -, rfl⟩ := addModule_eq_ok h
    simp only [Schema.entry?, Array.getElem?_push, if_neg hne] at hi
    exact ⟨e, hi, rfl, rfl, rfl⟩
  | add parent spec =>
    obtain ⟨above, -, -, -, -, rfl⟩ := add_eq_ok h
    simp only [Schema.entry?, Array.getElem?_modify, Array.getElem?_push, if_neg hne] at hi
    split at hi
    case isTrue =>
      obtain ⟨e₀, he₀, rfl⟩ := Option.map_eq_some_iff.1 hi
      exact ⟨e₀, he₀, rfl, rfl, rfl⟩
    case isFalse => exact ⟨e, hi, rfl, rfl, rfl⟩

theorem isRooted_step {step : Step} (h : d.step step = .ok (id, d'))
    (hf : d.schema.size ≤ UInt32.size → d.schema.IsForest) (hr : d.schema.IsRooted) :
    d'.schema.IsRooted := by
  obtain hfits | hfull := Nat.lt_or_ge d.schema.size UInt32.size
  · have hsize : d'.schema.size ≤ UInt32.size := by
      rw [size_step h]
      exact hfits
    exact (isForest_step h hf hsize).isRooted
  · exact hr.of_entries (entry?_step_of_full hfull h)

theorem isRooted_run (steps : List Step) (hf : d.schema.IsForest) :
    (d.run steps).2.schema.IsRooted :=
  (run_preserves (P := fun d =>
      (d.schema.size ≤ UInt32.size → d.schema.IsForest) ∧ d.schema.IsRooted)
    (fun ⟨hf, hr⟩ h => ⟨isForest_step h hf, isRooted_step h hf hr⟩)
    ⟨fun _ => hf, hf.isRooted⟩ steps).2

end Draft

theorem Schema.Finished.isRooted {s : Schema} (h : s.Finished) : s.IsRooted := by
  obtain ⟨steps, h⟩ := h
  obtain ⟨rfl, -⟩ := Draft.finish_eq_ok_iff.1 h
  exact Draft.isRooted_run steps isForest_empty

end YangBind
