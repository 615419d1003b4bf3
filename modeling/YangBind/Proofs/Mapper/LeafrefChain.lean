import YangBind.Proofs.NameMap
import YangBind.Proofs.Mapper.ScalarType

/-! The types of leaves by the chains of leafrefs that start at them. The type of a key leaf is the
one named at the end of its chain, and it is found exactly if the name is known and the chain is not
too long; a chain that runs in circles is too long. A field has the type of the key leaf, made a
sequence for a leaf-list, and its own default. -/

namespace YangBind

namespace Node

variable {s : Schema} {n m target : Node s} {j k : Nat}

/-- The node that `k` leafrefs lead to from `n`, one after another. -/
def leafrefChain? (n : Node s) : Nat → Option (Node s)
  | 0 => some n
  | k + 1 => n.leafrefTarget?.bind (·.leafrefChain? k)

theorem leafrefChain?_add (n : Node s) (j k : Nat) :
    n.leafrefChain? (j + k) = (n.leafrefChain? j).bind (·.leafrefChain? k) := by
  induction j generalizing n with
  | zero => rw [Nat.zero_add, leafrefChain?, Option.bind_some]
  | succ j ih => simp [Nat.succ_add, leafrefChain?, Option.bind_assoc, ih]

/-- A chain passes through all the nodes before its end. -/
theorem exists_leafrefChain?_of_le (h : n.leafrefChain? k = some m) (hle : j ≤ k) :
    ∃ via, n.leafrefChain? j = some via ∧ via.leafrefChain? (k - j) = some m := by
  rw [← Nat.add_sub_cancel' hle, leafrefChain?_add] at h
  exact Option.bind_eq_some_iff.1 h

theorem leafrefChain?_mul (h : n.leafrefChain? k = some n) (rounds : Nat) :
    n.leafrefChain? (rounds * k) = some n := by
  induction rounds with
  | zero => rw [Nat.zero_mul, leafrefChain?]
  | succ rounds ih => rw [Nat.succ_mul, leafrefChain?_add, ih, Option.bind_some, h]

/-- A chain that comes back to a node never ends. -/
theorem exists_leafrefChain?_of_repeats (hlt : j < k) (hj : n.leafrefChain? j = some m)
    (hk : n.leafrefChain? k = some m) (i : Nat) : ∃ via, n.leafrefChain? i = some via := by
  obtain ⟨via, hvia, hround⟩ := exists_leafrefChain?_of_le hk (Nat.le_of_lt hlt)
  obtain rfl : m = via := Option.some.inj (hj.symm.trans hvia)
  have hlong : n.leafrefChain? (j + i * (k - j)) = some m := by
    rw [leafrefChain?_add, hj, Option.bind_some, leafrefChain?_mul hround]
  have hle : i ≤ j + i * (k - j) :=
    Nat.le_add_left_of_le (Nat.le_mul_of_pos_right i (Nat.sub_pos_of_lt hlt))
  obtain ⟨via, hvia, -⟩ := exists_leafrefChain?_of_le hlong hle
  exact ⟨via, hvia⟩

/-- A chain that is longer than `i` or comes back to a node goes on after `i`. -/
theorem exists_leafrefChain?_succ {i : Nat} (h : n.leafrefChain? k = some m)
    (hlong : i < k ∨ ∃ j < k, n.leafrefChain? j = some m) :
    ∃ via, n.leafrefChain? (i + 1) = some via := by
  rcases hlong with hlt | ⟨j, hlt, hj⟩
  · obtain ⟨via, hvia, -⟩ := exists_leafrefChain?_of_le h hlt
    exact ⟨via, hvia⟩
  · exact exists_leafrefChain?_of_repeats hlt hj h _

theorem exists_leafref_of_leafrefTarget? (h : n.leafrefTarget? = some target) :
    ∃ path, n.entry.leafType = some (.leafref path) := by
  obtain ⟨path, hpath, -⟩ := Option.bind_eq_some_iff.1 h
  exact ⟨path, Entry.leafrefPath?_eq_some_iff.1 hpath⟩

/-- Wherever a chain goes on, it is at a leafref. -/
theorem exists_leafref_of_leafrefChain? (h : n.leafrefChain? k = some m) (hlt : j < k) :
    ∃ via path, n.leafrefChain? j = some via ∧ via.entry.leafType = some (.leafref path) := by
  obtain ⟨via, hvia, hrest⟩ := exists_leafrefChain?_of_le h (Nat.le_of_lt hlt)
  obtain ⟨rest, hsucc⟩ := Nat.exists_eq_succ_of_ne_zero (Nat.sub_ne_zero_of_lt hlt)
  rw [hsucc, leafrefChain?] at hrest
  obtain ⟨next, hnext, -⟩ := Option.bind_eq_some_iff.1 hrest
  obtain ⟨path, hpath⟩ := exists_leafref_of_leafrefTarget? hnext
  exact ⟨via, path, hvia, hpath⟩

/-- Whether `k` leafrefs lead to a leaf with a type of this name. -/
def LeadsTo (n : Node s) (k : Nat) (name : String) : Prop :=
  ∃ leaf, n.leafrefChain? k = some leaf ∧ leaf.entry.leafType = some (.named name)

/-- How a chain of at most `hops` leafrefs ends: at a leaf that is no leafref, or at the leafref
that would be one too many. -/
inductive ChainEnd (n : Node s) (hops : Nat) : Prop
  | untyped {k : Nat} {leaf : Node s} (hk : k ≤ hops) (hleaf : n.leafrefChain? k = some leaf)
      (htype : leaf.entry.leafType = none)
  | named {k : Nat} {name : String} (hk : k ≤ hops) (h : n.LeadsTo k name)
  | leafref {leaf : Node s} {path : String} (hleaf : n.leafrefChain? hops = some leaf)
      (htype : leaf.entry.leafType = some (.leafref path))

theorem ChainEnd.of_leafrefChain? (hleaf : n.leafrefChain? k = some m) : n.ChainEnd k := by
  cases htype : m.entry.leafType with
  | none => exact .untyped (Nat.le_refl _) hleaf htype
  | some type =>
    cases type with
    | named name => exact .named (Nat.le_refl _) ⟨m, hleaf, htype⟩
    | leafref path => exact .leafref hleaf htype

/-- Every chain ends, since no leafref leads nowhere. -/
theorem chainEnd_of_isSound (hs : s.IsSound) (n : Node s) (hops : Nat) : n.ChainEnd hops := by
  induction hops with
  | zero => exact .of_leafrefChain? rfl
  | succ hops ih =>
    cases ih with
    | untyped hk hleaf htype => exact .untyped (Nat.le_succ_of_le hk) hleaf htype
    | named hk h => exact .named (Nat.le_succ_of_le hk) h
    | leafref hleaf htype =>
      have hpath := Entry.leafrefPath?_eq_some_iff.2 htype
      obtain ⟨target, htarget⟩ := hs.exists_target _ _ hpath
      have hnext : n.leafrefChain? (hops + 1) = some target := by
        rw [leafrefChain?_add, hleaf, Option.bind_some, leafrefChain?, leafrefTarget?, hpath,
          Option.bind_some, htarget]
        rfl
      exact .of_leafrefChain? hnext

end Node

namespace CamelCase

variable {s : Schema} {c : CamelCase} {hops : Nat} {n : Node s} {name : String}
  {t : MappedType} {e : TypeError}

/-- The type that a name stands for: the enumeration of this name or else the built-in type. -/
inductive TypeOf (c : CamelCase) (name : String) : MappedType → Prop
  | enumerated {enum : EnumeratedType} (henum : c.enums.find? name = some enum) :
      TypeOf c name {
        nativeType := enum.name
        isEnumerated := true
        zeroValue := enum.name ++ "::Unset" }
  | builtin {nativeType zeroValue : String} (henum : c.enums.find? name = none)
      (hbuiltin : (name, nativeType, zeroValue) ∈ builtins) :
      TypeOf c name { nativeType, zeroValue }

/-- No type is built in twice. -/
theorem nodup_builtins : (builtins.map Prod.fst).Nodup := by decide

theorem lookup_builtins_eq_some_iff {x : String × String} :
    builtins.lookup name = some x ↔ (name, x) ∈ builtins :=
  NameMap.lookup_eq_some_iff_mem nodup_builtins

theorem namedType?_eq_some_iff : c.namedType? name = some t ↔ c.TypeOf name t := by
  unfold namedType?
  cases henum : c.enums.find? name with
  | some enum =>
    constructor
    · rintro ⟨⟩
      exact .enumerated henum
    · intro h
      cases h with
      | enumerated h =>
        cases henum.symm.trans h
        rfl
      | builtin h _ => cases henum.symm.trans h
  | none =>
    constructor
    · intro h
      obtain ⟨x, hx, rfl⟩ := Option.map_eq_some_iff.1 h
      exact .builtin henum (lookup_builtins_eq_some_iff.1 hx)
    · intro h
      cases h with
      | enumerated h => cases henum.symm.trans h
      | builtin _ h => exact Option.map_eq_some_iff.2 ⟨_, lookup_builtins_eq_some_iff.2 h, rfl⟩

/-- Why no type is found for a leaf when `hops` leafrefs may follow one another. A leafref that
leads nowhere is none of the reasons: a schema that has passed its check has no such leafref. -/
inductive Fault (c : CamelCase) (hops : Nat) (n : Node s) : TypeError → Prop
  | untyped {k : Nat} {leaf : Node s} (hk : k ≤ hops) (hleaf : n.leafrefChain? k = some leaf)
      (htype : leaf.entry.leafType = none) : Fault c hops n (.untyped leaf.schemaPath)
  | unknownType {k : Nat} {leaf : Node s} {name : String} (hk : k ≤ hops)
      (hleaf : n.leafrefChain? k = some leaf) (htype : leaf.entry.leafType = some (.named name))
      (hunknown : ∀ t, ¬c.TypeOf name t) : Fault c hops n (.unknownType name leaf.schemaPath)
  | chainTooDeep {leaf : Node s} {path : String} (hleaf : n.leafrefChain? hops = some leaf)
      (htype : leaf.entry.leafType = some (.leafref path)) :
      Fault c hops n (.chainTooDeep leaf.schemaPath)

/-- The search goes along the chain. -/
theorem scalarType_of_leafrefChain? {k : Nat} {leaf : Node s}
    (hleaf : n.leafrefChain? k = some leaf) (hk : k ≤ hops) :
    c.scalarType hops n = c.scalarType (hops - k) leaf := by
  induction k generalizing n hops with
  | zero =>
    cases hleaf
    rfl
  | succ k ih =>
    obtain ⟨fewer, rfl⟩ := Nat.exists_eq_add_of_lt hk
    obtain ⟨target, htarget, hleaf⟩ := Option.bind_eq_some_iff.1 hleaf
    obtain ⟨path, hpath⟩ := Node.exists_leafref_of_leafrefTarget? htarget
    rw [scalarType, hpath]
    simp only [htarget]
    rw [ih hleaf (Nat.le_add_right k fewer), Nat.add_sub_add_right]

/-- What the search comes to depends on the name at the end of the chain alone. -/
theorem scalarType_eq_ok_iff_of_leadsTo {k : Nat} (h : n.LeadsTo k name) (hk : k ≤ hops) :
    c.scalarType hops n = .ok t ↔ c.TypeOf name t := by
  obtain ⟨leaf, hleaf, htype⟩ := h
  rw [scalarType_of_leafrefChain? hleaf hk, scalarType.eq_def, htype, ← namedType?_eq_some_iff]
  cases hname : c.namedType? name <;> simp [hname]

theorem scalarType_of_fault (h : c.Fault hops n e) : c.scalarType hops n = .error e := by
  cases h with
  | untyped hk hleaf htype =>
    rw [scalarType_of_leafrefChain? hleaf hk, scalarType.eq_def, htype]
  | unknownType hk hleaf htype hunknown =>
    have hnone : c.namedType? _ = none :=
      Option.eq_none_iff_forall_ne_some.2 fun t ht => hunknown t (namedType?_eq_some_iff.1 ht)
    rw [scalarType_of_leafrefChain? hleaf hk, scalarType.eq_def, htype]
    simp [hnone]
  | chainTooDeep hleaf htype =>
    rw [scalarType_of_leafrefChain? hleaf (Nat.le_refl _), Nat.sub_self, scalarType, htype]

/-- The type at the end of the chain, or why there is none. -/
theorem scalarType_cases (hs : s.IsSound) (c : CamelCase) (hops : Nat) (n : Node s) :
    (∃ k ≤ hops, ∃ name t, n.LeadsTo k name ∧ c.TypeOf name t ∧ c.scalarType hops n = .ok t) ∨
      ∃ e, c.Fault hops n e ∧ c.scalarType hops n = .error e := by
  have hfault : ∀ {e}, c.Fault hops n e → ∃ e, c.Fault hops n e ∧ c.scalarType hops n = .error e :=
    fun h => ⟨_, h, scalarType_of_fault h⟩
  cases Node.chainEnd_of_isSound hs n hops with
  | untyped hk hleaf htype => exact .inr (hfault (.untyped hk hleaf htype))
  | leafref hleaf htype => exact .inr (hfault (.chainTooDeep hleaf htype))
  | @named k name hk h =>
    rcases Classical.em (∃ t, c.TypeOf name t) with ⟨t, ht⟩ | hunknown
    · exact .inl ⟨k, hk, name, t, h, ht, (scalarType_eq_ok_iff_of_leadsTo h hk).2 ht⟩
    · obtain ⟨leaf, hleaf, htype⟩ := h
      exact .inr (hfault (.unknownType hk hleaf htype fun t ht => hunknown ⟨t, ht⟩))

theorem scalarType_eq_ok_iff_leadsTo (hs : s.IsSound) : c.scalarType hops n = .ok t ↔
    ∃ k ≤ hops, ∃ name, n.LeadsTo k name ∧ c.TypeOf name t := by
  constructor
  · intro h
    obtain ⟨k, hk, name, t', hleads, ht, hok⟩ | ⟨e, -, herror⟩ := scalarType_cases hs c hops n
    · cases hok.symm.trans h
      exact ⟨k, hk, name, hleads, ht⟩
    · cases herror.symm.trans h
  · rintro ⟨k, hk, name, hleads, ht⟩
    exact (scalarType_eq_ok_iff_of_leadsTo hleads hk).2 ht

theorem scalarType_eq_error_iff (hs : s.IsSound) : c.scalarType hops n = .error e ↔
    c.Fault hops n e := by
  refine ⟨fun h => ?_, scalarType_of_fault⟩
  obtain ⟨k, hk, name, t', hleads, ht, hok⟩ | ⟨e', hfault, herror⟩ := scalarType_cases hs c hops n
  · cases hok.symm.trans h
  · cases herror.symm.trans h
    exact hfault

variable {opts : IrOptions}

/-- A chain that goes on after all the hops is too deep, wherever it leads. -/
theorem fault_of_long {far : Node s} (h : n.leafrefChain? (hops + 1) = some far) :
    ∃ leaf, n.leafrefChain? hops = some leaf ∧ c.Fault hops n (.chainTooDeep leaf.schemaPath) := by
  obtain ⟨leaf, path, hleaf, htype⟩ :=
    Node.exists_leafref_of_leafrefChain? h (Nat.lt_succ_self hops)
  exact ⟨leaf, hleaf, .chainTooDeep hleaf htype⟩

theorem leafType_eq_ok_none_iff :
    c.mapper.leafType n opts = .ok none ↔ n.entry.leafType = none := by
  change c.fieldType n = .ok none ↔ _
  unfold fieldType
  cases n.entry.leafType with
  | none => simp [pure, Except.pure]
  | some type => cases c.scalar n <;> simp [bind, Except.bind, pure, Except.pure]

/-- The type of a field from that of a key leaf. -/
def fieldOf (entry : Entry) (t : MappedType) : MappedType where
  nativeType := if entry.isLeafList then s!"Vec<{t.nativeType}>" else t.nativeType
  isEnumerated := t.isEnumerated
  zeroValue := if entry.isLeafList then "Vec::new()" else t.zeroValue
  defaultValue := entry.defaults.head?

theorem leafType_eq_map (h : n.entry.leafType ≠ none) :
    c.mapper.leafType n opts =
      (c.mapper.keyLeafType n opts).map (Option.map (fieldOf n.entry)) := by
  change c.fieldType n = (some <$> c.scalar n).map _
  obtain ⟨type, htype⟩ := Option.ne_none_iff_exists'.1 h
  unfold fieldType
  cases c.scalar n with
  | error e => simp [htype, bind, Except.bind, Functor.map, Except.map]
  | ok t =>
    by_cases hlist : n.entry.isLeafList = true <;>
      simp [htype, hlist, fieldOf, bind, Except.bind, Functor.map, Except.map, pure, Except.pure]

/-- The type of a key leaf is the one named at the end of its chain of leafrefs, if the chain is
short enough and the name is known. Every other chain has its reason to fail, and the reason of one
that is longer or comes back to a leaf is that it is too deep. A field has no type if its leaf has
none, and else the type of the key leaf in the form of a field. -/
theorem leafTypes_of_chain (hs : s.Finished) (c : CamelCase) (n : Node s) (opts : IrOptions) :
    (∀ answer, c.mapper.keyLeafType n opts = .ok answer ↔
      ∃ k ≤ maxChain, ∃ name t, n.LeadsTo k name ∧ c.TypeOf name t ∧ answer = some t) ∧
    (∀ k ≤ maxChain, ∀ name, n.LeadsTo k name → ∀ answer,
      c.mapper.keyLeafType n opts = .ok answer ↔ ∃ t, c.TypeOf name t ∧ answer = some t) ∧
    (∀ cause, c.mapper.keyLeafType n opts = .error cause ↔
      ∃ e, c.Fault maxChain n e ∧ cause = ⟨e.message⟩) ∧
    (∀ k m, n.leafrefChain? k = some m →
      (maxChain < k ∨ ∃ j < k, n.leafrefChain? j = some m) →
      ∃ leaf, n.leafrefChain? maxChain = some leaf ∧
        c.mapper.keyLeafType n opts =
          .error ⟨(TypeError.chainTooDeep leaf.schemaPath).message⟩) ∧
    (c.mapper.leafType n opts = .ok none ↔ n.entry.leafType = none) ∧
    (n.entry.leafType ≠ none →
      c.mapper.leafType n opts =
        (c.mapper.keyLeafType n opts).map (Option.map (fieldOf n.entry))) := by
  have hsound := hs.isSound
  have herror : ∀ cause, c.mapper.keyLeafType n opts = .error cause ↔
      ∃ e, c.Fault maxChain n e ∧ cause = ⟨e.message⟩ := by
    intro cause
    simp only [keyLeafType_eq_error_iff, scalarType_eq_error_iff hsound]
  refine ⟨fun answer => ?_, fun k hk name hleads answer => ?_, herror, fun k m hm hlong => ?_,
    leafType_eq_ok_none_iff, leafType_eq_map⟩
  · simp only [keyLeafType_eq_ok_iff, scalar_eq_ok_iff, scalarType_eq_ok_iff_leadsTo hsound]
    constructor
    · rintro ⟨t, ⟨k, hk, name, hleads, ht⟩, hanswer⟩
      exact ⟨k, hk, name, t, hleads, ht, hanswer⟩
    · rintro ⟨k, hk, name, t, hleads, ht, hanswer⟩
      exact ⟨t, ⟨k, hk, name, hleads, ht⟩, hanswer⟩
  · simp only [keyLeafType_eq_ok_iff, scalar_eq_ok_iff, scalarType_eq_ok_iff_of_leadsTo hleads hk]
  · obtain ⟨far, hfar⟩ := Node.exists_leafrefChain?_succ hm hlong
    obtain ⟨leaf, hleaf, hfault⟩ := fault_of_long hfar
    exact ⟨leaf, hleaf, (herror _).2 ⟨_, hfault, rfl⟩⟩

/-- The name of a leaf in a row of leaves. -/
def rowName (k : Nat) : String := String.singleton (.ofNat ('a'.toNat + k))

/-- A module with a leaf of type `string`, a row of leafrefs each of which leads to the one before,
and a leafref to itself. -/
def rowOfLeafrefs (length : Nat) : Schema :=
  (Draft.empty.run ([.module "m", .add ⟨0⟩ (.leafref "loop" "../loop"),
    .add ⟨0⟩ (.leaf (rowName 0) "string")] ++ (List.range length).map fun k =>
      .add ⟨0⟩ (.leafref (rowName (k + 1)) ("../" ++ rowName k)))).2.schema

theorem finished_rowOfLeafrefs : (rowOfLeafrefs 17).Finished :=
  Schema.finished_run (by decide +kernel)

/-- Sixteen leafrefs are followed, and neither one more nor a leafref to itself. -/
theorem leafTypes_of_chain_rowOfLeafrefs :
    ∃ row longer loop : Node (rowOfLeafrefs 17),
      (row.LeadsTo 16 "string" ∧ longer.LeadsTo 17 "string" ∧
        loop.leafrefChain? 1 = some loop) ∧
      (ofEnums []).mapper.keyLeafType row {} =
        .ok (some { nativeType := "String", zeroValue := "String::new()" }) ∧
      (∃ cause, (ofEnums []).mapper.keyLeafType longer {} = .error cause) ∧
      ∃ cause, (ofEnums []).mapper.keyLeafType loop {} = .error cause := by
  have hnode : ∀ i ∈ [18, 19, 1], ∃ n, (rowOfLeafrefs 17).node? (.ofIndex i) = some n := by
    simp only [← Option.isSome_iff_exists]
    decide +kernel
  have hchains : ∀ n ∈ (rowOfLeafrefs 17).nodes,
      (n.id = .ofIndex 18 → ((n.leafrefChain? 16).bind (·.entry.leafType)) =
        some (.named "string")) ∧
      (n.id = .ofIndex 19 → ((n.leafrefChain? 17).bind (·.entry.leafType)) =
        some (.named "string")) ∧
      (n.id = .ofIndex 1 → n.leafrefChain? 1 = some n) := by
    decide +kernel
  obtain ⟨row, hrow⟩ := hnode 18 (by decide)
  obtain ⟨longer, hlonger⟩ := hnode 19 (by decide)
  obtain ⟨loop, hloop⟩ := hnode 1 (by decide)
  have hrowLeads : row.LeadsTo 16 "string" := Option.bind_eq_some_iff.1
    ((hchains row row.mem_nodes).1 (Schema.node?_eq_some_iff.1 hrow))
  have hlongerLeads : longer.LeadsTo 17 "string" := Option.bind_eq_some_iff.1
    ((hchains longer longer.mem_nodes).2.1 (Schema.node?_eq_some_iff.1 hlonger))
  have hround : loop.leafrefChain? 1 = some loop :=
    (hchains loop loop.mem_nodes).2.2 (Schema.node?_eq_some_iff.1 hloop)
  have htype : (ofEnums []).TypeOf "string"
      { nativeType := "String", zeroValue := "String::new()" } := .builtin rfl (by decide)
  obtain ⟨hok, -⟩ := leafTypes_of_chain finished_rowOfLeafrefs (ofEnums []) row {}
  obtain ⟨-, -, -, hdeep, -⟩ := leafTypes_of_chain finished_rowOfLeafrefs (ofEnums []) longer {}
  obtain ⟨-, -, -, hcycle, -⟩ := leafTypes_of_chain finished_rowOfLeafrefs (ofEnums []) loop {}
  refine ⟨row, longer, loop, ⟨hrowLeads, hlongerLeads, hround⟩, ?_, ?_, ?_⟩
  · exact (hok _).2 ⟨16, Nat.le_refl _, "string", _, hrowLeads, htype, rfl⟩
  · obtain ⟨leaf, hleaf, -⟩ := hlongerLeads
    obtain ⟨last, -, herror⟩ := hdeep 17 leaf hleaf (.inl (Nat.lt_succ_self 16))
    exact ⟨_, herror⟩
  · obtain ⟨last, -, herror⟩ := hcycle 1 loop hround (.inr ⟨0, Nat.zero_lt_one, rfl⟩)
    exact ⟨_, herror⟩

end CamelCase

end YangBind
