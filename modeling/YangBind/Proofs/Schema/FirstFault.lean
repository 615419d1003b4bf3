import YangBind.Proofs.Schema.Faults

/-! The outcome of the check at the end of construction. A draft in which every node is intact comes
out as it is. Otherwise the first node that is not intact is reported: with the first of its keys
that no data child bears or, if there is none, with its leafref. -/

namespace YangBind

namespace Node

variable {s : Schema}

/-- Whether every key of a node is the name of a data child and its leafref leads somewhere. -/
structure IsIntact (n : Node s) : Prop where
  exists_key : ∀ key ∈ n.entry.keys, ∃ c ∈ n.dataChildren, c.name = key
  exists_target : ∀ path, n.entry.leafType = some (.leafref path) →
    ∃ target, n.resolve? path = some target

/-- What is to be said of a node that is not intact. Keys come before the leafref, and of the keys
the first in the order they are declared. -/
inductive HasFault (n : Node s) : SchemaError → Prop
  | missingKey {before after : List String} {key : String}
      (hkeys : n.entry.keys = before ++ key :: after)
      (hbefore : ∀ earlier ∈ before, ∃ c ∈ n.dataChildren, c.name = earlier)
      (hkey : ∀ c ∈ n.dataChildren, c.name ≠ key) :
      HasFault n (.missingKey n.schemaPath key)
  | unresolvedLeafref {path : String}
      (hkeys : ∀ key ∈ n.entry.keys, ∃ c ∈ n.dataChildren, c.name = key)
      (htype : n.entry.leafType = some (.leafref path))
      (htarget : n.resolve? path = none) :
      HasFault n (.unresolvedLeafref n.schemaPath path)

end Node

namespace Schema

variable {s : Schema} {n : Node s} {e : SchemaError}

theorem fault?_eq_none_iff_isIntact : fault? n = none ↔ n.IsIntact := by
  simp only [fault?_eq_none_iff, Entry.leafrefPath?_eq_some_iff]
  exact ⟨fun h => ⟨h.1, h.2⟩, fun h => ⟨h.1, h.2⟩⟩

theorem firstMissing_eq_some_iff {key : String} :
    (n.entry.keys.find? fun key => (n.dataChild? key).isNone) = some key ↔
      ∃ before after, n.entry.keys = before ++ key :: after ∧
        (∀ earlier ∈ before, ∃ c ∈ n.dataChildren, c.name = earlier) ∧
        ∀ c ∈ n.dataChildren, c.name ≠ key := by
  simp only [List.find?_eq_some_iff_append, Option.isNone_iff_eq_none, Node.dataChild?_eq_none_iff,
    ← Node.exists_dataChild?_iff, ← Option.isSome_iff_exists, Bool.not_eq_true',
    Option.isNone_eq_false_iff]
  constructor
  · rintro ⟨hkey, before, after, hkeys, hbefore⟩
    exact ⟨before, after, hkeys, hbefore, hkey⟩
  · rintro ⟨before, after, hkeys, hbefore, hkey⟩
    exact ⟨hkey, before, after, hkeys, hbefore⟩

theorem firstMissing_eq_none_iff :
    (n.entry.keys.find? fun key => (n.dataChild? key).isNone) = none ↔
      ∀ key ∈ n.entry.keys, ∃ c ∈ n.dataChildren, c.name = key := by
  simp [← Node.exists_dataChild?_iff, ← Option.isSome_iff_exists, ← Option.ne_none_iff_isSome]

theorem fault?_eq_some_iff : fault? n = some e ↔ n.HasFault e := by
  constructor
  · intro h
    unfold fault? at h
    split at h
    case h_1 key hfound =>
      cases h
      obtain ⟨before, after, hkeys, hbefore, hkey⟩ := firstMissing_eq_some_iff.1 hfound
      exact .missingKey hkeys hbefore hkey
    case h_2 hfound =>
      split at h
      case h_2 => cases h
      case h_1 path hpath =>
        split at h
        case isFalse => cases h
        case isTrue hnone =>
          cases h
          refine .unresolvedLeafref (firstMissing_eq_none_iff.1 hfound)
            (Entry.leafrefPath?_eq_some_iff.1 hpath) ?_
          simpa [Node.leafrefTarget?, hpath] using hnone
  · intro h
    cases h with
    | missingKey hkeys hbefore hkey =>
      rw [fault?, firstMissing_eq_some_iff.2 ⟨_, _, hkeys, hbefore, hkey⟩]
    | unresolvedLeafref hkeys htype htarget =>
      have hpath := Entry.leafrefPath?_eq_some_iff.2 htype
      simp [fault?, firstMissing_eq_none_iff.2 hkeys, hpath, Node.leafrefTarget?, htarget]

/-- Of the nodes that lack a property one comes first. -/
theorem exists_first_of_not_forall {p : Node s → Prop} (h : ¬∀ n, p n) :
    ∃ n, ¬p n ∧ ∀ m : Node s, m.id.index < n.id.index → p m := by
  refine Classical.byContradiction fun hnone => h fun n => ?_
  induction hi : n.id.index using Nat.strongRecOn generalizing n with
  | _ i ih =>
    refine Classical.byContradiction fun hn => hnone ⟨n, hn, fun m hlt => ?_⟩
    exact ih m.id.index (hi ▸ hlt) m rfl

/-- The first node that is not intact decides. -/
theorem firstFault?_eq_some_iff : s.firstFault? = some e ↔
    ∃ n : Node s, n.HasFault e ∧ ∀ m : Node s, m.id.index < n.id.index → m.IsIntact := by
  simp only [← fault?_eq_some_iff, ← fault?_eq_none_iff_isIntact]
  constructor
  · intro h
    have hfaulty : ¬∀ n : Node s, fault? n = none := by
      rw [← firstFault?_eq_none_iff, h]
      nofun
    obtain ⟨n, hn, hfirst⟩ := exists_first_of_not_forall hfaulty
    obtain ⟨e', he'⟩ := Option.ne_none_iff_exists'.1 hn
    rw [← h, firstFault?_of_first he' hfirst]
    exact ⟨n, he', hfirst⟩
  · rintro ⟨n, hn, hfirst⟩
    exact firstFault?_of_first hn hfirst

end Schema

namespace Draft

/-- The check returns the draft as it is if every node of it is intact, and else what is to be said
of the first node that is not. -/
theorem outcome_finish (d : Draft) :
    (∀ s, d.finish = .ok s ↔ s = d.schema ∧ ∀ n : Node d.schema, n.IsIntact) ∧
      ∀ e, d.finish = .error e ↔
        ∃ n : Node d.schema, n.HasFault e ∧
          ∀ m : Node d.schema, m.id.index < n.id.index → m.IsIntact := by
  refine ⟨fun s => ?_, fun e => finish_eq_error_iff.trans Schema.firstFault?_eq_some_iff⟩
  rw [finish_eq_ok_iff, Schema.firstFault?_eq_none_iff]
  simp only [Schema.fault?_eq_none_iff_isIntact]
  exact and_congr_left' eq_comm

/-- The leafref comes before the list, whose key is missing as well. -/
example :
    (Draft.empty.run [.module "m", .add ⟨0⟩ (.leafref "r" "../nowhere"),
      .add ⟨0⟩ (.list "l" ["k"])]).2.schema.firstFault? =
      some (.unresolvedLeafref ⟨["", "m", "r"]⟩ "../nowhere") := by
  decide +kernel

end Draft

end YangBind
