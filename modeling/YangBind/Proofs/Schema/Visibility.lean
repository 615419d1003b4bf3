import Mathlib.Data.List.Induction
import YangBind.Proofs.Schema.DataLineage
import YangBind.Schema.PathExpr

/-! Which nodes a look-up by name can find. Two nodes with the same data parent may share a name if
they stand in different cases, and then only the first of them is found. Path expressions go by
look-ups, so they never lead to or through a node that is hidden in this way. -/

namespace YangBind.Node

variable {s : Schema}

/-- Whether looking for a node by its name below its data parent finds it. A node is hidden if a
namesake stands before it in another case. -/
def IsVisible (n : Node s) : Prop := ∃ p, n.dataParent? = some p ∧ p.dataChild? n.name = some n

theorem descend?_of_isVisible {l n : Node s} {rest : List (Node s)}
    (h : n.dataAncestry = l.dataAncestry ++ rest) (hv : ∀ a ∈ rest, a.IsVisible) :
    l.descend? (rest.map name) = some n := by
  induction rest using List.reverseRecOn generalizing n with
  | nil =>
    rw [List.append_nil] at h
    rw [dataAncestry_inj h]
    rfl
  | append_singleton rest a ih =>
    have hlast := getLast?_dataAncestry n
    rw [h, ← List.append_assoc, List.getLast?_concat, Option.some.injEq] at hlast
    subst hlast
    obtain ⟨p, hp, hfind⟩ := hv a (by simp)
    rw [dataAncestry_of_dataParent? hp, ← List.append_assoc] at h
    have hpath := List.append_cancel_right h
    rw [List.map_append, descend?_append, ih hpath fun b hb => hv b (by simp [hb])]
    simp [descend?, hfind]

theorem isData_of_step? {m n : Node s} {step : PathStep} (hm : m.isData = true)
    (h : m.step? step = some n) : n.isData = true := by
  cases step with
  | stay => exact Option.some.inj h ▸ hm
  | up => exact isData_of_dataParent? h
  | down name => exact isData_of_dataChild? h

theorem isData_of_walk? {m n : Node s} {steps : List PathStep} (hm : m.isData = true)
    (h : m.walk? steps = some n) : n.isData = true := by
  induction steps generalizing m with
  | nil => exact Option.some.inj h ▸ hm
  | cons step rest ih =>
    obtain ⟨k, hk, hrest⟩ := Option.bind_eq_some_iff.1 h
    exact ih (isData_of_step? hm hk) hrest

theorem isData_of_follow? {m n : Node s} {expr : PathExpr} (hm : m.isData = true)
    (h : m.follow? expr = some n) : n.isData = true := by
  cases expr with
  | relative steps => exact isData_of_walk? hm h
  | absolute first steps =>
    obtain ⟨top, htop, hwalk⟩ := Option.bind_eq_some_iff.1 h
    obtain ⟨r, -, hfirst⟩ := List.exists_of_findSome?_eq_some htop
    exact isData_of_walk? (isData_of_dataChild? hfirst) hwalk

/-- A step enters nothing hidden. -/
theorem isVisible_of_step? (hf : s.IsForest) {m n : Node s} {step : PathStep}
    (hm : m.isData = true) (h : m.step? step = some n) :
    ∀ a ∈ n.dataAncestry, a ∈ m.dataAncestry ∨ a.IsVisible := by
  intro a ha
  cases step with
  | stay => exact .inl (Option.some.inj h ▸ ha)
  | up =>
    rw [dataAncestry_of_dataParent? h]
    exact .inl (List.mem_append_left _ ha)
  | down name =>
    have hp := dataParent?_of_dataChild? hf hm h
    rw [dataAncestry_of_dataParent? hp, List.mem_append, List.mem_singleton] at ha
    obtain ha | rfl := ha
    · exact .inl ha
    · exact .inr ⟨m, hp, by rwa [name_of_dataChild? h]⟩

theorem isVisible_of_walk? (hf : s.IsForest) {m n : Node s} {steps : List PathStep}
    (hm : m.isData = true) (h : m.walk? steps = some n) :
    ∀ a ∈ n.dataAncestry, a ∈ m.dataAncestry ∨ a.IsVisible := by
  induction steps generalizing m with
  | nil =>
    obtain rfl := Option.some.inj h
    exact fun a ha => .inl ha
  | cons step rest ih =>
    obtain ⟨k, hk, hrest⟩ := Option.bind_eq_some_iff.1 h
    intro a ha
    exact (ih (isData_of_step? hm hk) hrest a ha).elim (isVisible_of_step? hf hm hk a) .inr

/-- An expression leads below where it stands, or below a root, along visible nodes only. -/
theorem isVisible_of_follow? (hf : s.IsForest) {m n : Node s} {expr : PathExpr}
    (hm : m.isData = true) (h : m.follow? expr = some n) :
    ∀ a ∈ n.dataAncestry, a ∈ m.dataAncestry ∨ a.dataParent? = none ∨ a.IsVisible := by
  intro a ha
  cases expr with
  | relative steps => exact (isVisible_of_walk? hf hm h a ha).imp_right .inr
  | absolute first steps =>
    obtain ⟨t, ht, hwalk⟩ := Option.bind_eq_some_iff.1 h
    obtain ⟨r, hr, hfirst⟩ := List.exists_of_findSome?_eq_some ht
    have hroot := (mem_moduleNodes_iff hf).1 hr
    have hrd := isData_of_root hf.isRooted hroot
    have hrp := dataParent?_of_root hroot
    -- the absolute expression is a walk from the root whose first step goes down
    have hwalk' : r.walk? (.down first :: steps) = some n := by
      rw [walk?, List.foldlM_cons]
      exact Option.bind_eq_some_iff.2 ⟨t, hfirst, hwalk⟩
    obtain ha | ha := isVisible_of_walk? hf hrd hwalk' a ha
    · rw [dataAncestry_of_root hrp] at ha
      exact .inr (.inl (List.mem_singleton.1 ha ▸ hrp))
    · exact .inr (.inr ha)

theorem mem_keyLeaves {l e : Node s} (h : e ∈ l.keyLeaves) :
    ∃ key ∈ l.entry.keys, ∃ leaf, l.dataChild? key = some leaf ∧
      leaf.leafrefTarget?.getD leaf = e := by
  obtain ⟨leaf, hleaf, he⟩ := List.mem_map.1 h
  obtain ⟨key, hkey, hfind⟩ := List.mem_filterMap.1 hleaf
  exact ⟨key, hkey, leaf, hfind, he⟩

theorem isVisible_of_mem_keyLeaves (hf : s.IsForest) {l e : Node s} (hl : l.isData = true)
    (h : e ∈ l.keyLeaves) :
    ∀ a ∈ e.dataAncestry, a ∈ l.dataAncestry ∨ a.dataParent? = none ∨ a.IsVisible := by
  obtain ⟨key, -, leaf, hleaf, he⟩ := mem_keyLeaves h
  have hstep := isVisible_of_step? hf hl (show l.step? (.down key) = some leaf from hleaf)
  intro a ha
  cases htarget : leaf.leafrefTarget? with
  | none =>
    rw [htarget, Option.getD_none] at he
    exact (hstep a (he ▸ ha)).imp_right .inr
  | some target =>
    rw [htarget, Option.getD_some] at he
    obtain ⟨text, -, hresolve⟩ := Option.bind_eq_some_iff.1 htarget
    subst he
    obtain ha | ha := isVisible_of_follow? hf (isData_of_dataChild? hleaf) hresolve a ha
    · exact (hstep a ha).imp_right .inr
    · exact .inr ha

/-- A key leaf that lies below its list is reached from the list by the names along the way. -/
theorem descend?_of_mem_keyLeaves (hf : s.IsForest) {l e : Node s} {rest : List (Node s)}
    (hl : l.isData = true) (he : e ∈ l.keyLeaves) (h : e.dataAncestry = l.dataAncestry ++ rest) :
    l.descend? (rest.map name) = some e := by
  apply descend?_of_isVisible h
  intro a ha
  have hmem : a ∈ e.dataAncestry := by
    rw [h]
    exact List.mem_append_right _ ha
  have hout : a ∉ l.dataAncestry := by
    intro hal
    have hnodup := e.nodup_dataAncestry
    rw [h, List.nodup_append] at hnodup
    exact hnodup.2.2 a hal a ha rfl
  obtain hal | hroot | hv := isVisible_of_mem_keyLeaves hf hl he a hmem
  · exact absurd hal hout
  · obtain ⟨p, hp⟩ := exists_dataParent?_of_mem_rest h ha
    cases hp.symm.trans hroot
  · exact hv

end YangBind.Node
