import YangBind.Proofs.Schema.Faults
import YangBind.Proofs.Schema.PathIdentity

/-! Looking down by name and looking up. A search below a data node goes into choices and cases and
takes the first node of the name; each node it can come to has that data node as the nearest one
above it, and where such a node exists the search comes to one. -/

namespace YangBind

namespace Node

variable {s : Schema}

/-- Whether `a` stands before `b`: where their lineages part, that of `a` goes through the earlier
one of two siblings. -/
def Precedes (a b : Node s) : Prop :=
  ∃ x ∈ a.lineage, ∃ y ∈ b.lineage, x.parent? = y.parent? ∧ x.id.index < y.id.index

theorem pairwise_children (hf : s.IsForest) (n : Node s) :
    n.children.Pairwise fun a b => a.id.index < b.id.index := by
  unfold children
  rw [List.pairwise_filterMap]
  refine (hf.children_ascending n.entry?_id).imp ?_
  intro i j hij a ha b hb
  split at ha
  case isFalse => cases ha
  case isTrue =>
    split at hb
    case isFalse => cases hb
    case isTrue => rwa [Schema.node?_eq_some_iff.1 ha, Schema.node?_eq_some_iff.1 hb]

theorem mem_lineage_self (n : Node s) : n ∈ n.lineage := List.mem_cons_self

theorem mem_lineage_trans {a b c : Node s} (hab : a ∈ b.lineage) (hbc : b ∈ c.lineage) :
    a ∈ c.lineage := by
  induction c using ancestors.induct with
  | case1 c hc =>
    rw [lineage_of_root hc, List.mem_singleton] at hbc
    exact hbc ▸ hab
  | case2 c p hp ih =>
    rw [lineage_of_parent? hp] at hbc ⊢
    obtain rfl | hbc := List.mem_cons.1 hbc
    · rwa [lineage_of_parent? hp] at hab
    · exact List.mem_cons_of_mem _ (ih hbc)

/-- What a child contributes to the data children of its parent lies at or below the child. -/
theorem mem_lineage_of_mem_dataChildren (hf : s.IsForest) {b c : Node s}
    (h : c ∈ if b.isData then [b] else b.dataChildren) : b ∈ c.lineage := by
  induction b using dataChildren.induct with
  | case1 b ih =>
    split at h
    case isTrue => exact List.mem_singleton.1 h ▸ b.mem_lineage_self
    case isFalse =>
      rw [dataChildren_eq, List.mem_flatMap] at h
      obtain ⟨x, hx, hc⟩ := h
      have hup := lineage_of_parent? ((mem_children_iff hf).1 hx)
      exact mem_lineage_trans (hup ▸ List.mem_cons_of_mem _ b.mem_lineage_self) (ih x hx hc)

/-- Data children come in the order in which they stand. -/
theorem pairwise_dataChildren (hf : s.IsForest) (n : Node s) :
    n.dataChildren.Pairwise Precedes := by
  induction n using dataChildren.induct with
  | case1 n ih =>
    rw [dataChildren_eq, List.pairwise_flatMap]
    refine ⟨fun b hb => ?_, ?_⟩
    · split
      case isTrue => exact List.pairwise_singleton _ _
      case isFalse => exact ih b hb
    · refine (pairwise_children hf n).imp_of_mem ?_
      intro a b ha hb hlt x hx y hy
      have hsiblings : a.parent? = b.parent? := by
        rw [(mem_children_iff hf).1 ha, (mem_children_iff hf).1 hb]
      exact ⟨a, mem_lineage_of_mem_dataChildren hf hx, b, mem_lineage_of_mem_dataChildren hf hy,
        hsiblings, hlt⟩

/-- The search by name stops at the first data child that has it. -/
theorem eq_or_precedes_of_dataChild? (hf : s.IsForest) {p c n : Node s} {name : String}
    (h : p.dataChild? name = some c) (hn : n ∈ p.dataChildren) (hname : n.name = name) :
    n = c ∨ c.Precedes n := by
  obtain ⟨-, front, back, hsplit, hfront⟩ := List.find?_eq_some_iff_append.1 h
  rw [hsplit] at hn
  obtain hn | hn := List.mem_append.1 hn
  · simpa [hname] using hfront n hn
  · refine (List.mem_cons.1 hn).imp_right fun hback => ?_
    have hpairs := pairwise_dataChildren hf p
    rw [hsplit] at hpairs
    exact (List.pairwise_cons.1 (List.pairwise_append.1 hpairs).2.1).1 n hback

/-- Below a data node the search by name comes to a data node of the name that has it as its data
parent, and to the first such node; wherever one stands, the search comes to one. -/
theorem dataChild?_dual (hs : s.Finished) (hsize : s.size ≤ UInt32.size) {p : Node s}
    (hp : p.isData = true) (name : String) :
    (∀ c, p.dataChild? name = some c →
      c.isData = true ∧ c.name = name ∧ c.dataParent? = some p ∧
        ∀ n : Node s, n.isData = true → n.name = name → n.dataParent? = some p →
          n = c ∨ c.Precedes n) ∧
      ∀ n : Node s, n.isData = true → n.name = name → n.dataParent? = some p →
        ∃ c, p.dataChild? name = some c := by
  have hf := hs.isForest hsize
  refine ⟨fun c hc => ?_, fun n hn hname hparent => ?_⟩
  · refine ⟨isData_of_dataChild? hc, name_of_dataChild? hc, dataParent?_of_dataChild? hf hp hc, ?_⟩
    intro n hn hname hparent
    exact eq_or_precedes_of_dataChild? hf hc ((mem_dataChildren_iff hf hp).2 ⟨hn, hparent⟩) hname
  · exact exists_dataChild?_iff.2 ⟨n, (mem_dataChildren_iff hf hp).2 ⟨hn, hparent⟩, hname⟩

/-- Of the two containers in different cases the search finds the first; the second one alone shows
that it finds some. -/
theorem dataChild?_dual_caseTwins :
    caseTwins.Finished ∧ (caseTwin 6).dataParent? = some (caseTwin 0) ∧
      (caseTwin 0).dataChild? "x" = some (caseTwin 3) ∧
      (caseTwin 3).dataParent? = some (caseTwin 0) ∧ (caseTwin 3).Precedes (caseTwin 6) := by
  have hparent : (caseTwin 6).dataParent? = some (caseTwin 0) := by decide +kernel
  obtain ⟨hfound, hexists⟩ := dataChild?_dual finished_caseTwins (by decide +kernel)
    (by decide +kernel : (caseTwin 0).isData = true) "x"
  obtain ⟨c, hc⟩ := hexists (caseTwin 6) (by decide +kernel) (by decide +kernel) hparent
  have hfirst : (caseTwin 0).dataChild? "x" = some (caseTwin 3) := by decide +kernel
  obtain rfl := Option.some.inj (hfirst.symm.trans hc)
  obtain ⟨-, -, hup, hprecedes⟩ := hfound (caseTwin 3) hfirst
  refine ⟨finished_caseTwins, hparent, hfirst, hup, ?_⟩
  exact (hprecedes (caseTwin 6) (by decide +kernel) (by decide +kernel) hparent).resolve_left
    (by decide +kernel)

end Node

end YangBind
