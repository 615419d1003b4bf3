import Mathlib.Data.List.Forall2
import YangBind.Proofs.Schema.Faults
import YangBind.Proofs.Schema.Visibility

/-! The key leaves of a list. They are data nodes in every schema. In one that passed the check at
the end, every key of a list finds its leaf and every leafref its target, so that no key is lost on
the way: the key leaves stand one for each key, in the order of the keys. -/

namespace YangBind.Node

variable {s : Schema} {l e : Node s}

theorem isData_of_mem_keyLeaves (h : e ∈ l.keyLeaves) : e.isData = true := by
  obtain ⟨key, -, leaf, hleaf, rfl⟩ := mem_keyLeaves h
  have hdata := isData_of_dataChild? hleaf
  cases htarget : leaf.leafrefTarget? with
  | none => exact hdata
  | some target =>
    obtain ⟨text, -, hresolve⟩ := Option.bind_eq_some_iff.1 htarget
    exact isData_of_follow? hdata hresolve

/-- Whether a leaf that is a key counts as `e`: as the target of its leafref, or else as itself. -/
def StandsFor (leaf e : Node s) : Prop :=
  match leaf.entry.leafrefPath? with
  | some path => leaf.resolve? path = some e
  | none => leaf = e

theorem standsFor_of_isSound (hs : s.IsSound) (leaf : Node s) :
    leaf.StandsFor (leaf.leafrefTarget?.getD leaf) := by
  unfold StandsFor leafrefTarget?
  cases hpath : leaf.entry.leafrefPath? with
  | none => rfl
  | some path =>
    obtain ⟨target, htarget⟩ := hs.exists_target leaf path hpath
    simp [htarget]

/-- Whether `e` is what the list has for a key: what its data child of this name stands for. -/
def HasKeyLeaf (l : Node s) (key : String) (e : Node s) : Prop :=
  ∃ leaf, l.dataChild? key = some leaf ∧ leaf.StandsFor e

theorem forall₂_keyLeaves (hs : s.IsSound) (l : Node s) :
    List.Forall₂ l.HasKeyLeaf l.entry.keys l.keyLeaves := by
  have hfound : ∀ key ∈ l.entry.keys, ∃ leaf, l.dataChild? key = some leaf :=
    fun key hkey => exists_dataChild?_iff.2 (hs.exists_key l key hkey)
  unfold keyLeaves
  generalize l.entry.keys = keys at hfound
  induction keys with
  | nil => exact .nil
  | cons key rest ih =>
    obtain ⟨⟨leaf, hleaf⟩, hrest⟩ := List.forall_mem_cons.1 hfound
    rw [List.filterMap_cons_some hleaf, List.map_cons]
    exact .cons ⟨leaf, hleaf, standsFor_of_isSound hs leaf⟩ (ih hrest)

theorem exists_key_of_keyLeaves (hs : s.IsSound) {i : Nat} (h : l.keyLeaves[i]? = some e) :
    ∃ key, l.entry.keys[i]? = some key ∧ l.HasKeyLeaf key e := by
  have hall := forall₂_keyLeaves hs l
  obtain ⟨hi, rfl⟩ := List.getElem?_eq_some_iff.1 h
  have hkey : i < l.entry.keys.length := hall.length_eq ▸ hi
  exact ⟨_, List.getElem?_eq_getElem hkey, hall.get hkey hi⟩

end YangBind.Node
