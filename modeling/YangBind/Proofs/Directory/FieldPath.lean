import YangBind.Directory.MappedPath

/-! Where a field is. What comes of asking for the path of a field depends on three things alone:
whether the branch has the field, whether the schema has its entry, and whether that entry lies
strictly below the directory. -/

namespace YangBind

theorem SchemaPath.isBelow_iff_prefix {p base : SchemaPath} :
    p.isBelow base = true ↔ base.segments <+: p.segments ∧ base ≠ p := by
  rw [isBelow_iff]
  constructor
  · rintro ⟨rest, hne, h⟩
    refine ⟨⟨rest, h.symm⟩, ?_⟩
    rintro rfl
    exact hne (by simpa using h)
  · rintro ⟨⟨rest, h⟩, hne⟩
    refine ⟨rest, ?_, h.symm⟩
    rintro rfl
    apply hne
    cases base
    cases p
    simpa using h

theorem bind_eq_ok_iff {ε α β : Type} {x : Except ε α} {f : α → Except ε β} {b : β} :
    (x >>= f) = .ok b ↔ ∃ a, x = .ok a ∧ f a = .ok b := by
  cases x <;> simp [bind, Except.bind]

theorem map_eq_ok_iff {ε α β : Type} {x : Except ε α} {f : α → β} {b : β} :
    x.map f = .ok b ↔ ∃ a, x = .ok a ∧ f a = b := by
  cases x <;> simp [Except.map]

theorem map_eq_error_iff {ε α β : Type} {x : Except ε α} {f : α → β} {e : ε} :
    x.map f = .error e ↔ x = .error e := by
  cases x <;> simp [Except.map]

theorem toOption_eq_some_iff {ε α : Type} {x : Except ε α} {a : α} :
    x.toOption = some a ↔ x = .ok a := by
  cases x <;> simp [Except.toOption]

namespace Directory

variable {s : Schema} {d : Directory} {key : String} {b : Branch} {mode : PathMode} {n : Node s}

theorem locate_absent_primary (h : (d.branch .primary).find? key = none) :
    d.locate s key .primary = .error (.missingField key d.name) := by
  simp [locate, h]

theorem locate_absent_shadow (h : (d.branch .shadow).find? key = none) :
    d.locate s key .shadow = .ok none := by
  simp [locate, h]

theorem locate_outside {i : EntryId} (h : (d.branch b).find? key = some i)
    (hi : s.node? i = none) : d.locate s key b = .error (.unknownEntry i) := by
  simp [locate, h, Schema.require, hi]

theorem require_id (n : Node s) : s.require n.id = .ok n := by
  simp [Schema.require, Schema.node?_eq_some_iff.2 rfl]

theorem require_eq_ok_iff {i : EntryId} : s.require i = .ok n ↔ n.id = i := by
  rw [← Schema.node?_eq_some_iff]
  unfold Schema.require
  cases s.node? i <;> simp

theorem locate_not_below (h : (d.branch b).find? key = some n.id)
    (hn : n.schemaPath.isBelow d.path = false) :
    d.locate s key b = .error (.invalidPath n.schemaPath d.path) := by
  simp [locate, h, require_id, hn]

theorem locate_below (h : (d.branch b).find? key = some n.id)
    (hn : n.schemaPath.isBelow d.path = true) : d.locate s key b = .ok (some n) := by
  simp [locate, h, require_id, hn]

theorem fieldPath?_of_locate (h : d.locate s key b = .ok (some n)) (mode : PathMode) :
    d.fieldPath? s key b mode = .ok (some (d.pathTo mode n).path) := by
  rw [fieldPath?, h]
  rfl

theorem locate_eq_some (h : d.locate s key b = .ok (some n)) :
    (d.branch b).find? key = some n.id ∧ n.schemaPath.isBelow d.path = true := by
  unfold locate at h
  split at h
  case h_1 => split at h <;> cases h
  case h_2 i hi =>
    split at h
    case h_1 => cases h
    case h_2 x hx =>
      split at h
      case isFalse => cases h
      case isTrue hbelow =>
        cases h
        exact ⟨require_eq_ok_iff.1 hx ▸ hi, hbelow⟩

theorem path_pathTo_absolute : (d.pathTo .absolute n).path = n.dataPath := by
  simp [pathTo, SchemaPath.fromBoundary, SchemaPath.drop, Node.schemaPath, Node.dataPath]

theorem append_path_pathTo_relative (h : n.schemaPath.isBelow d.path = true) :
    (d.pathTo .relative n).path.segments ≠ [] ∧
      d.path.segments ++ (d.pathTo .relative n).path.segments = n.schemaPath.segments := by
  obtain ⟨rest, hne, hrest⟩ := SchemaPath.isBelow_iff.1 h
  have hdrop : (d.pathTo .relative n).path.segments = rest := by
    simp [pathTo, SchemaPath.drop, SchemaPath.length, hrest]
  rw [hdrop, hrest]
  exact ⟨hne, rfl⟩

/-- What asking for the path of a field comes to, and exactly when. -/
theorem fieldPath?_outcome (s : Schema) (d : Directory) (key : String) (b : Branch)
    (mode : PathMode) :
    (∀ k dir, d.fieldPath? s key b mode = .error (.missingField k dir) ↔
      (d.branch b).find? key = none ∧ b = .primary ∧ k = key ∧ dir = d.name) ∧
    (d.fieldPath? s key b mode = .ok none ↔ (d.branch b).find? key = none ∧ b = .shadow) ∧
    (∀ i, d.fieldPath? s key b mode = .error (.unknownEntry i) ↔
      (d.branch b).find? key = some i ∧ s.size ≤ i.index) ∧
    (∀ p q, d.fieldPath? s key b mode = .error (.invalidPath p q) ↔
      ∃ n : Node s, (d.branch b).find? key = some n.id ∧
        ¬(d.path.segments <+: n.schemaPath.segments ∧ d.path ≠ n.schemaPath) ∧
        p = n.schemaPath ∧ q = d.path) ∧
    (∀ n : Node s, (d.branch b).find? key = some n.id →
      d.path.segments <+: n.schemaPath.segments → d.path ≠ n.schemaPath →
      ∃ p, d.fieldPath? s key b mode = .ok (some p) ∧
        (mode = .relative →
          p.segments ≠ [] ∧ d.path.segments ++ p.segments = n.schemaPath.segments) ∧
        (mode = .absolute → p = n.dataPath)) := by
  cases hfound : (d.branch b).find? key with
  | none =>
    cases b with
    | primary => simp [fieldPath?, locate_absent_primary hfound, Except.map, eq_comm]
    | shadow => simp [fieldPath?, locate_absent_shadow hfound, Except.map]
  | some i =>
    cases hnode : s.node? i with
    | none =>
      have hsize := Schema.node?_eq_none_iff.1 hnode
      have hout : ∀ n : Node s, i ≠ n.id := by
        rintro n rfl
        exact absurd n.index_lt_size (Nat.not_lt_of_le hsize)
      simp only [fieldPath?, locate_outside hfound hnode, Except.map]
      simp [hout, hsize]
    | some n =>
      obtain rfl := Schema.node?_eq_some_iff.1 hnode
      have hlt := n.index_lt_size
      by_cases hbelow : n.schemaPath.isBelow d.path = true
      · have hprefix := SchemaPath.isBelow_iff_prefix.1 hbelow
        have hpath : (mode = .relative → (d.pathTo mode n).path.segments ≠ [] ∧
            d.path.segments ++ (d.pathTo mode n).path.segments = n.schemaPath.segments) ∧
            (mode = .absolute → (d.pathTo mode n).path = n.dataPath) := by
          constructor
          · rintro rfl
            exact append_path_pathTo_relative hbelow
          · rintro rfl
            exact path_pathTo_absolute
        simp only [fieldPath?, locate_below hfound hbelow, Except.map]
        simpa [Node.id_inj, hprefix, hlt] using hpath
      · have hprefix : d.path.segments <+: n.schemaPath.segments → d.path = n.schemaPath := by
          simpa [SchemaPath.isBelow_iff_prefix] using hbelow
        simp only [Bool.not_eq_true] at hbelow
        simp only [fieldPath?, locate_not_below hfound hbelow, Except.map]
        simp +contextual [Node.id_inj, hprefix, hlt, eq_comm]

end Directory

end YangBind
