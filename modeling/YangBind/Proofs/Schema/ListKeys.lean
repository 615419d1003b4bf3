import YangBind.Proofs.Schema.DataLineage
import YangBind.Proofs.Schema.Faults

/-! What the check at the end says of list keys. A key has to be the name of a data child; of what
kind the child is does not matter, so the keys of an accepted schema need not be leaves. -/

namespace YangBind

namespace Schema

variable {s : Schema}

/-- Every key of a list leads to a leaf. -/
def HasKeyLeaves (s : Schema) : Prop :=
  ∀ n : Node s, ∀ key ∈ n.entry.keys, ∃ leaf, n.dataChild? key = some leaf ∧ leaf.kind = .leaf

end Schema

namespace Draft

open Schema

/-- A module with one list, which has these keys and one child. -/
def listOver (keys : List String) (child : EntrySpec) : Draft :=
  (Draft.empty.run [.module "m", .add ⟨0⟩ (.list "l" keys), .add ⟨1⟩ child]).2

/-- A draft passes the check if every key is the name of a data child and every leafref leads
somewhere. Its keys then lead to leaves exactly if none of them leads to a node of another kind. A
key that no data child bears is refused, with its list named if no earlier node is at fault. -/
theorem keys_of_finish (d : Draft) :
    ((∃ s, d.finish = .ok s) ↔ d.schema.IsSound) ∧
    (∀ s, d.finish = .ok s →
      (∀ n : Node s, ∀ key ∈ n.entry.keys,
        ∃ c ∈ n.dataChildren, n.dataChild? key = some c ∧ c.name = key ∧ c.isData = true) ∧
      (s.HasKeyLeaves ↔ ∀ n c : Node s, ∀ key ∈ n.entry.keys,
        n.dataChild? key = some c → c.kind = .leaf)) ∧
    ∀ (n : Node d.schema), ∀ key ∈ n.entry.keys, (∀ c ∈ n.dataChildren, c.name ≠ key) →
      (∃ e, d.finish = .error e) ∧
      ((∀ m : Node d.schema, m.id.index < n.id.index → Schema.fault? m = none) →
        ∃ first ∈ n.entry.keys, (∀ c ∈ n.dataChildren, c.name ≠ first) ∧
          d.finish = .error (.missingKey n.schemaPath first)) := by
  have hok : (∃ s, d.finish = .ok s) ↔ d.schema.IsSound := by
    simp [finish_eq_ok_iff, firstFault?_eq_none_iff_isSound]
  refine ⟨hok, fun s hs => ?_, fun n key hkey hnone => ?_⟩
  · obtain ⟨rfl, hsound⟩ := finish_eq_ok_iff.1 hs
    rw [firstFault?_eq_none_iff_isSound] at hsound
    have hfound : ∀ n : Node d.schema, ∀ key ∈ n.entry.keys, ∃ c, n.dataChild? key = some c :=
      fun n key hkey => Node.exists_dataChild?_iff.2 (hsound.exists_key n key hkey)
    refine ⟨fun n key hkey => ?_, fun h n c key hkey hc => ?_, fun h n key hkey => ?_⟩
    · obtain ⟨c, hc⟩ := hfound n key hkey
      have hmem := List.mem_of_find?_eq_some hc
      exact ⟨c, hmem, hc, Node.name_of_dataChild? hc, Node.isData_of_mem_dataChildren hmem⟩
    · obtain ⟨leaf, hleaf, hkind⟩ := h n key hkey
      rw [hleaf] at hc
      exact Option.some.inj hc ▸ hkind
    · obtain ⟨c, hc⟩ := hfound n key hkey
      exact ⟨c, hc, h n c key hkey hc⟩
  · refine ⟨?_, fun hearlier => ?_⟩
    · cases hd : d.finish with
      | error e => exact ⟨e, rfl⟩
      | ok s =>
        obtain ⟨c, hc, hname⟩ := (hok.1 ⟨s, hd⟩).exists_key n key hkey
        exact absurd hname (hnone c hc)
    · obtain ⟨first, hfirst, hno, hfault⟩ :=
        fault?_of_key hkey (Node.dataChild?_eq_none_iff.2 hnone)
      exact ⟨first, hfirst, Node.dataChild?_eq_none_iff.1 hno,
        finish_eq_error_iff.2 (firstFault?_of_first hfault hearlier)⟩

theorem keys_of_finish_listOver :
    (listOver ["k"] (.leaf "k" "string")).schema.HasKeyLeaves ∧
      ∃ first ∈ ["k", "j"], (listOver ["k", "j"] (.leaf "k" "string")).finish =
        .error (.missingKey ⟨["", "m", "l"]⟩ first) := by
  constructor
  · let d := listOver ["k"] (.leaf "k" "string")
    have hd : d.finish = .ok d.schema := finish_eq_ok_iff.2 ⟨rfl, by decide +kernel⟩
    have hkind : ∀ n ∈ d.schema.nodes, ∀ c ∈ d.schema.nodes, ∀ key ∈ n.entry.keys,
        n.dataChild? key = some c → c.kind = .leaf := by decide +kernel
    exact ((keys_of_finish d).2.1 d.schema hd).2.2 fun n c => hkind n n.mem_nodes c c.mem_nodes
  · let d := listOver ["k", "j"] (.leaf "k" "string")
    obtain ⟨l, hl⟩ : ∃ l, d.schema.node? (.ofIndex 1) = some l :=
      Option.isSome_iff_exists.1 (by decide +kernel)
    have hlist : ∀ n ∈ d.schema.nodes, n.id = .ofIndex 1 → n.entry.keys = ["k", "j"] ∧
        (∀ c ∈ n.dataChildren, c.name ≠ "j") ∧ n.schemaPath = ⟨["", "m", "l"]⟩ ∧
        ∀ m ∈ d.schema.nodes, m.id.index < n.id.index → Schema.fault? m = none := by
      decide +kernel
    obtain ⟨hkeys, hnone, hpath, hearlier⟩ := hlist l l.mem_nodes (node?_eq_some_iff.1 hl)
    obtain ⟨first, hfirst, -, herror⟩ := ((keys_of_finish d).2.2 l "j" (by simp [hkeys]) hnone).2
      fun m => hearlier m m.mem_nodes
    exact ⟨first, hkeys ▸ hfirst, hpath ▸ herror⟩

/-- A list with a container under the name of its key is accepted. -/
theorem container_as_key_is_accepted :
    let d := listOver ["k"] (.container "k")
    d.finish = .ok d.schema ∧ ∃ n c : Node d.schema, "k" ∈ n.entry.keys ∧
      n.dataChild? "k" = some c ∧ c.kind = .container ∧ ¬d.schema.HasKeyLeaves := by
  intro d
  obtain ⟨l, hl⟩ : ∃ l, d.schema.node? (.ofIndex 1) = some l :=
    Option.isSome_iff_exists.1 (by decide +kernel)
  have hlist : ∀ n ∈ d.schema.nodes, n.id = .ofIndex 1 → "k" ∈ n.entry.keys ∧
      ∃ c ∈ d.schema.nodes, n.dataChild? "k" = some c ∧ c.kind = .container := by
    decide +kernel
  obtain ⟨hkey, c, -, hc, hkind⟩ := hlist l l.mem_nodes (node?_eq_some_iff.1 hl)
  refine ⟨finish_eq_ok_iff.2 ⟨rfl, by decide +kernel⟩, l, c, hkey, hc, hkind, fun h => ?_⟩
  obtain ⟨leaf, hleaf, hleafKind⟩ := h l "k" hkey
  rw [hc, Option.some.injEq] at hleaf
  subst hleaf
  cases hkind.symm.trans hleafKind

end Draft

end YangBind
