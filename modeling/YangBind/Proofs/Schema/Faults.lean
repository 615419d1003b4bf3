import YangBind.Proofs.Schema.Forest

/-! The check at the end of construction. It accepts exactly the schemas without a fault, and the
fault it reports is that of the first node that has one. -/

namespace YangBind

theorem Entry.leafrefPath?_eq_some_iff {e : Entry} {path : String} :
    e.leafrefPath? = some path ↔ e.leafType = some (.leafref path) := by
  cases h : e.leafType with
  | none => simp [leafrefPath?, h]
  | some type => cases type <;> simp [leafrefPath?, LeafType.leafrefPath?, h]

namespace Node

variable {s : Schema}

theorem dataChild?_eq_none_iff {n : Node s} {name : String} :
    n.dataChild? name = none ↔ ∀ c ∈ n.dataChildren, c.name ≠ name := by
  simp [dataChild?]

theorem exists_dataChild?_iff {n : Node s} {name : String} :
    (∃ c, n.dataChild? name = some c) ↔ ∃ c ∈ n.dataChildren, c.name = name := by
  rw [← Option.isSome_iff_exists, ← Option.ne_none_iff_isSome, ne_eq, dataChild?_eq_none_iff]
  simp

end Node

namespace Schema

variable {s : Schema} {n : Node s} {e : SchemaError}

/-- What the check asks of a schema. -/
structure IsSound (s : Schema) : Prop where
  exists_key (n : Node s) : ∀ key ∈ n.entry.keys, ∃ c ∈ n.dataChildren, c.name = key
  exists_target (n : Node s) : ∀ path, n.entry.leafrefPath? = some path →
    ∃ target, n.resolve? path = some target

/-- The three outcomes of the check of one node. -/
theorem fault?_cases (n : Node s) :
    (fault? n = none ∧ (∀ key ∈ n.entry.keys, ∃ c, n.dataChild? key = some c) ∧
      ∀ path, n.entry.leafrefPath? = some path → ∃ target, n.resolve? path = some target) ∨
    (∃ key ∈ n.entry.keys, n.dataChild? key = none ∧
      fault? n = some (.missingKey n.schemaPath key)) ∨
    ∃ path, n.entry.leafrefPath? = some path ∧ n.resolve? path = none ∧
      (∀ key ∈ n.entry.keys, ∃ c, n.dataChild? key = some c) ∧
      fault? n = some (.unresolvedLeafref n.schemaPath path) := by
  cases hkey : n.entry.keys.find? fun key => (n.dataChild? key).isNone with
  | some key =>
    have hnone := List.find?_some hkey
    exact .inr (.inl ⟨key, List.mem_of_find?_eq_some hkey, by simpa using hnone,
      by simp [fault?, hkey]⟩)
  | none =>
    have hkeys : ∀ key ∈ n.entry.keys, ∃ c, n.dataChild? key = some c := by
      simpa [← Option.isSome_iff_exists, Option.isSome_iff_ne_none] using hkey
    cases hpath : n.entry.leafrefPath? with
    | none => exact .inl ⟨by simp [fault?, hkey, hpath], hkeys, by simp⟩
    | some path =>
      cases htarget : n.resolve? path with
      | some target =>
        exact .inl ⟨by simp [fault?, hkey, hpath, Node.leafrefTarget?, htarget], hkeys,
          by simp [htarget]⟩
      | none =>
        exact .inr (.inr ⟨path, rfl, htarget, hkeys,
          by simp [fault?, hkey, hpath, Node.leafrefTarget?, htarget]⟩)

theorem fault?_of_key {key : String} (hkey : key ∈ n.entry.keys) (h : n.dataChild? key = none) :
    ∃ first ∈ n.entry.keys, n.dataChild? first = none ∧
      fault? n = some (.missingKey n.schemaPath first) := by
  obtain ⟨-, hkeys, -⟩ | hmissing | ⟨-, -, -, hkeys, -⟩ := fault?_cases n
  · simpa [h] using hkeys key hkey
  · exact hmissing
  · simpa [h] using hkeys key hkey

theorem fault?_eq_none_iff :
    fault? n = none ↔ (∀ key ∈ n.entry.keys, ∃ c ∈ n.dataChildren, c.name = key) ∧
      ∀ path, n.entry.leafrefPath? = some path → ∃ target, n.resolve? path = some target := by
  simp only [← Node.exists_dataChild?_iff]
  obtain ⟨hnone, hsound⟩ | ⟨key, hkey, hno, hfault⟩ | ⟨path, hpath, hno, -, hfault⟩ :=
    fault?_cases n
  · exact iff_of_true hnone hsound
  · simp only [hfault, reduceCtorEq, false_iff]
    rintro ⟨hkeys, -⟩
    simpa [hno] using hkeys key hkey
  · simp only [hfault, reduceCtorEq, false_iff]
    rintro ⟨-, htargets⟩
    simpa [hno] using htargets path hpath

theorem unresolved_of_fault? {leaf : SchemaPath} {target : String}
    (h : fault? n = some (.unresolvedLeafref leaf target)) :
    n.schemaPath = leaf ∧ n.entry.leafrefPath? = some target ∧ n.resolve? target = none := by
  obtain ⟨hnone, -⟩ | ⟨key, -, -, hfault⟩ | ⟨path, hpath, hno, -, hfault⟩ := fault?_cases n
  · cases hnone.symm.trans h
  · cases hfault.symm.trans h
  · cases hfault.symm.trans h
    exact ⟨rfl, hpath, hno⟩

theorem firstFault?_eq_none_iff : s.firstFault? = none ↔ ∀ n : Node s, fault? n = none := by
  rw [firstFault?, List.findSome?_eq_none_iff]
  exact ⟨fun h n => h n n.mem_nodes, fun h n _ => h n⟩

theorem firstFault?_eq_none_iff_isSound : s.firstFault? = none ↔ s.IsSound := by
  simp only [firstFault?_eq_none_iff, fault?_eq_none_iff]
  exact ⟨fun h => ⟨fun n => (h n).1, fun n => (h n).2⟩, fun h n => ⟨h.1 n, h.2 n⟩⟩

theorem Finished.isSound (h : s.Finished) : s.IsSound := by
  obtain ⟨steps, h⟩ := h
  obtain ⟨rfl, hsound⟩ := Draft.finish_eq_ok_iff.1 h
  exact firstFault?_eq_none_iff_isSound.1 hsound

theorem exists_of_firstFault? (h : s.firstFault? = some e) : ∃ n : Node s, fault? n = some e := by
  obtain ⟨n, -, hn⟩ := List.exists_of_findSome?_eq_some h
  exact ⟨n, hn⟩

theorem nodes_eq_append (n : Node s) :
    ∃ before after, s.nodes = before ++ n :: after ∧ ∀ m ∈ before, m.id.index < n.id.index := by
  obtain ⟨later, hsize⟩ := Nat.exists_eq_add_of_lt n.index_lt_size
  have hnodes : s.nodes =
      (List.range n.id.index).filterMap (fun i => s.node? (.ofIndex i)) ++
        n :: (((List.range later).map Nat.succ).map (n.id.index + ·)).filterMap
          fun i => s.node? (.ofIndex i) := by
    rw [nodes, hsize, Nat.add_assoc, List.range_add, List.range_succ_eq_map, List.filterMap_append,
      List.map_cons, Nat.add_zero,
      List.filterMap_cons_some (by rw [EntryId.ofIndex_index, node?_eq_some_iff])]
  refine ⟨_, _, hnodes, fun m hm => ?_⟩
  obtain ⟨i, hi, hm⟩ := List.mem_filterMap.1 hm
  have hlt := List.mem_range.1 hi
  rwa [node?_eq_some_iff.1 hm, EntryId.index_ofIndex (Nat.lt_trans hlt (UInt32.toNat_lt n.id.raw))]

theorem firstFault?_of_first (h : fault? n = some e)
    (hfirst : ∀ m : Node s, m.id.index < n.id.index → fault? m = none) :
    s.firstFault? = some e := by
  obtain ⟨before, after, hnodes, hbefore⟩ := nodes_eq_append n
  rw [firstFault?, hnodes, List.findSome?_append,
    List.findSome?_eq_none_iff.2 fun m hm => hfirst m (hbefore m hm), Option.none_or,
    List.findSome?_cons_of_isSome (by simp [h]), h]

end Schema

theorem Draft.finish_eq_error_iff {d : Draft} {e : SchemaError} :
    d.finish = .error e ↔ d.schema.firstFault? = some e := by
  unfold finish
  split <;> simp [*]

end YangBind
