import YangBind.Proofs.Schema.Rooted

/-! The ways up and down the data tree fit together: in a forest the data children of a data node
are the data nodes that have it as their data parent, and the data path to a node goes on from the
data path to each data node above it. -/

namespace YangBind.Node

variable {s : Schema}

theorem parent?_eq_some_iff (hr : s.IsRooted) {n p : Node s} :
    n.parent? = some p ↔ n.entry.parent = some p.id := by
  unfold parent?
  rw [Option.bind_eq_some_iff]
  constructor
  · rintro ⟨i, hi, h⟩
    split at h
    case isTrue => rw [hi, Schema.node?_eq_some_iff.1 h]
    case isFalse => simp at h
  · intro h
    refine ⟨p.id, h, ?_⟩
    rw [if_pos (hr.parent_lt n.entry?_id h), Schema.node?_eq_some_iff]

theorem parent?_eq_none_iff (hr : s.IsRooted) {n : Node s} :
    n.parent? = none ↔ n.entry.parent = none := by
  constructor
  · intro h
    cases hp : n.entry.parent with
    | none => rfl
    | some i =>
      have hlt := Nat.lt_trans (hr.parent_lt n.entry?_id hp) n.index_lt_size
      cases hnode : s.node? i with
      | none => exact absurd hlt (Nat.not_lt_of_le (Schema.node?_eq_none_iff.1 hnode))
      | some p =>
        obtain rfl := Schema.node?_eq_some_iff.1 hnode
        rw [(parent?_eq_some_iff hr).2 hp] at h
        cases h
  · intro h
    simp [parent?, h]

theorem eq_of_siblings (hr : s.IsRooted) {a b : Node s} (hp : a.parent? = b.parent?)
    (hname : a.name = b.name) : a = b := by
  refine ext (hr.siblings_eq a.entry?_id b.entry?_id ?_ hname)
  cases hq : b.parent? with
  | none => rw [(parent?_eq_none_iff hr).1 hq, (parent?_eq_none_iff hr).1 (hp.trans hq)]
  | some q => rw [(parent?_eq_some_iff hr).1 hq, (parent?_eq_some_iff hr).1 (hp.trans hq)]

theorem kind_of_root (hr : s.IsRooted) {n : Node s} (h : n.parent? = none) : n.kind = .module :=
  hr.kind_of_root n.entry?_id ((parent?_eq_none_iff hr).1 h)

theorem isData_of_root (hr : s.IsRooted) {n : Node s} (h : n.parent? = none) :
    n.isData = true := by
  simp [isData, kind_of_root hr h, EntryKind.isChoiceOrCase]

theorem mem_children_iff (hf : s.IsForest) {n c : Node s} :
    c ∈ n.children ↔ c.parent? = some n := by
  have hlink : c.id ∈ n.entry.children ↔ c.entry.parent = some n.id := by
    rw [hf.mem_children_iff n.entry?_id, c.entry?_id]
    simp
  rw [parent?_eq_some_iff hf.isRooted, ← hlink]
  unfold children
  rw [List.mem_filterMap]
  constructor
  · rintro ⟨i, hi, h⟩
    split at h
    case isTrue => rwa [Schema.node?_eq_some_iff.1 h]
    case isFalse => simp at h
  · intro h
    have hlt := hf.parent_lt c.entry?_id (hlink.1 h)
    exact ⟨c.id, h, by rw [if_pos hlt, Schema.node?_eq_some_iff]⟩

theorem ancestors_of_parent? {n p : Node s} (h : n.parent? = some p) : n.ancestors = p.lineage := by
  rw [ancestors_eq, h]
  rfl

theorem lineage_of_parent? {n p : Node s} (h : n.parent? = some p) :
    n.lineage = n :: p.lineage := by
  rw [lineage, ancestors_of_parent? h]

theorem lineage_of_root {r : Node s} (h : r.parent? = none) : r.lineage = [r] := by
  simp [lineage, ancestors_eq, h]

theorem isData_of_mem_dataChildren {n c : Node s} (h : c ∈ n.dataChildren) : c.isData = true := by
  induction n using dataChildren.induct with
  | case1 n ih =>
    rw [dataChildren_eq, List.mem_flatMap] at h
    obtain ⟨child, hchild, hc⟩ := h
    split at hc
    case isTrue hdata =>
      rw [List.mem_singleton] at hc
      exact hc ▸ hdata
    case isFalse => exact ih child hchild hc

/-- Looking up from a data child of `n` for the nearest data node is the same as looking up from
`n`. -/
theorem dataParent?_of_mem_dataChildren (hf : s.IsForest) {n c : Node s} (h : c ∈ n.dataChildren) :
    c.dataParent? = n.lineage.find? isData := by
  induction n using dataChildren.induct with
  | case1 n ih =>
    rw [dataChildren_eq, List.mem_flatMap] at h
    obtain ⟨b, hb, hc⟩ := h
    have hup := ancestors_of_parent? ((mem_children_iff hf).1 hb)
    split at hc
    case isTrue hdata =>
      obtain rfl := List.mem_singleton.1 hc
      rw [dataParent?, hup]
    case isFalse hdata => rw [ih b hb hc, lineage, List.find?_cons_of_neg hdata, hup]

theorem isData_of_dataChild? {n c : Node s} {name : String} (h : n.dataChild? name = some c) :
    c.isData = true :=
  isData_of_mem_dataChildren (List.mem_of_find?_eq_some h)

theorem name_of_dataChild? {n c : Node s} {name : String} (h : n.dataChild? name = some c) :
    c.name = name := by
  simpa using List.find?_some h

theorem dataParent?_of_dataChild? (hf : s.IsForest) {n c : Node s} {name : String}
    (hn : n.isData = true) (h : n.dataChild? name = some c) : c.dataParent? = some n := by
  rw [dataParent?_of_mem_dataChildren hf (List.mem_of_find?_eq_some h), lineage,
    List.find?_cons_of_pos hn]

theorem mem_moduleNodes_iff (hf : s.IsForest) {r : Node s} :
    r ∈ s.moduleNodes ↔ r.parent? = none := by
  simp only [Schema.moduleNodes, List.mem_filterMap, Schema.node?_eq_some_iff, exists_eq_right',
    hf.mem_modules_iff, parent?_eq_none_iff hf.isRooted]
  simp [r.entry?_id]

theorem isData_of_isList {n : Node s} (h : n.entry.isList = true) : n.isData = true := by
  have hkind : n.entry.kind = .list := by simpa [Entry.isList] using h
  simp [isData, kind, hkind, EntryKind.isChoiceOrCase]

theorem dataParent?_of_root {r : Node s} (h : r.parent? = none) : r.dataParent? = none := by
  simp [dataParent?, ancestors_eq, h]

theorem dataParent?_of_parent? {n p : Node s} (h : n.parent? = some p) :
    n.dataParent? = if p.isData then some p else p.dataParent? := by
  rw [dataParent?, ancestors_of_parent? h, lineage, List.find?_cons]
  cases p.isData <;> rfl

theorem mem_dataChildren_of_parent? (hf : s.IsForest) {c b n : Node s} (hb : b.parent? = some n)
    (h : c ∈ if b.isData then [b] else b.dataChildren) : c ∈ n.dataChildren := by
  rw [dataChildren_eq]
  exact List.mem_flatMap.2 ⟨b, (mem_children_iff hf).2 hb, h⟩

/-- What is among the data children of a choice or a case is among those of the data node above. -/
theorem mem_dataChildren_of_hidden (hf : s.IsForest) {c b p : Node s} (hb : b.isData = false)
    (hp : b.dataParent? = some p) (h : c ∈ b.dataChildren) : c ∈ p.dataChildren := by
  induction b using ancestors.induct with
  | case1 b hroot => simp [dataParent?_of_root hroot] at hp
  | case2 b q hq ih =>
    have hcq : c ∈ q.dataChildren := mem_dataChildren_of_parent? hf hq (by rwa [hb])
    rw [dataParent?_of_parent? hq] at hp
    split at hp
    case isTrue => rwa [← Option.some.inj hp]
    case isFalse hdata => exact ih (by simpa using hdata) hp hcq

theorem mem_dataChildren_iff (hf : s.IsForest) {p c : Node s} (hp : p.isData = true) :
    c ∈ p.dataChildren ↔ c.isData = true ∧ c.dataParent? = some p := by
  constructor
  · intro h
    have hc := isData_of_mem_dataChildren h
    have hparent := dataParent?_of_mem_dataChildren hf h
    rw [lineage, List.find?_cons_of_pos hp] at hparent
    exact ⟨hc, hparent⟩
  · rintro ⟨hc, hparent⟩
    cases hq : c.parent? with
    | none => simp [dataParent?_of_root hq] at hparent
    | some q =>
      have hcq : c ∈ q.dataChildren := mem_dataChildren_of_parent? hf hq (by simp [hc])
      rw [dataParent?_of_parent? hq] at hparent
      split at hparent
      case isTrue => rwa [← Option.some.inj hparent]
      case isFalse hdata =>
        exact mem_dataChildren_of_hidden hf (by simpa using hdata) hparent hcq

/-- Only modules have no data node above them. -/
theorem parent?_of_dataParent?_eq_none (hr : s.IsRooted) {n : Node s} (h : n.dataParent? = none) :
    n.parent? = none := by
  induction n using ancestors.induct with
  | case1 n hn => exact hn
  | case2 n p hp ih =>
    rw [dataParent?_of_parent? hp] at h
    split at h
    case isTrue => cases h
    case isFalse hdata => exact absurd (isData_of_root hr (ih h)) hdata

theorem root_of_parent?_eq_none {n : Node s} (h : n.parent? = none) : n.root = n := by
  simp [root, lineage, ancestors_eq n, h]

theorem root_of_parent? {n p : Node s} (h : n.parent? = some p) : n.root = p.root := by
  simp [root, lineage, ancestors_of_parent? h]

theorem root_of_mem_ancestors {n a : Node s} (h : a ∈ n.ancestors) : n.root = a.root := by
  induction n using ancestors.induct with
  | case1 n hn => simp [ancestors_eq n, hn] at h
  | case2 n p hp ih =>
    rw [ancestors_of_parent? hp, lineage] at h
    rw [root_of_parent? hp]
    obtain rfl | h := List.mem_cons.1 h
    · rfl
    · exact ih h

theorem parent?_root (n : Node s) : n.root.parent? = none := by
  induction n using ancestors.induct with
  | case1 n hn => rwa [root_of_parent?_eq_none hn]
  | case2 n p hp ih => rwa [root_of_parent? hp]

theorem root_of_dataParent? {n p : Node s} (h : n.dataParent? = some p) : n.root = p.root := by
  induction n using ancestors.induct with
  | case1 n hn => simp [dataParent?_of_root hn] at h
  | case2 n q hq ih =>
    rw [dataParent?_of_parent? hq] at h
    rw [root_of_parent? hq]
    split at h
    case isTrue => rw [Option.some.inj h]
    case isFalse => exact ih h

theorem dataParent?_of_mem_ancestors {n a : Node s} (h : a ∈ n.ancestors) (ha : a.isData = true) :
    ∃ p, n.dataParent? = some p ∧ a ∈ p.lineage := by
  induction n using ancestors.induct with
  | case1 n hn => simp [ancestors_eq n, hn] at h
  | case2 n p hp ih =>
    rw [ancestors_of_parent? hp, lineage] at h
    rw [dataParent?_of_parent? hp]
    by_cases hd : p.isData = true
    · exact ⟨p, if_pos hd, h⟩
    · rw [if_neg hd]
      obtain rfl | h := List.mem_cons.1 h
      · exact absurd ha hd
      · exact ih h

theorem dataAncestry_of_dataParent? {n p : Node s} (h : n.dataParent? = some p) :
    n.dataAncestry = p.dataAncestry ++ [n] := by
  rw [dataAncestry_eq, h]

theorem dataAncestry_of_root {n : Node s} (h : n.dataParent? = none) : n.dataAncestry = [n] := by
  rw [dataAncestry_eq, h]

theorem getLast?_dataAncestry (n : Node s) : n.dataAncestry.getLast? = some n := by
  rw [dataAncestry_eq]
  split <;> simp

theorem dataAncestry_ne_nil (n : Node s) : n.dataAncestry ≠ [] := by
  intro h
  simpa [h] using getLast?_dataAncestry n

theorem dataAncestry_inj {m n : Node s} (h : m.dataAncestry = n.dataAncestry) : m = n :=
  Option.some.inj (by rw [← getLast?_dataAncestry, h, getLast?_dataAncestry])

theorem dataParent?_of_dataAncestry {l n x : Node s} (h : n.dataAncestry = l.dataAncestry ++ [x]) :
    n.dataParent? = some l := by
  cases hp : n.dataParent? with
  | none =>
    have hlen := congrArg List.length h
    have hpos := List.length_pos_iff.2 l.dataAncestry_ne_nil
    rw [dataAncestry_of_root hp, List.length_append, List.length_singleton,
      List.length_singleton] at hlen
    omega
  | some p =>
    rw [dataAncestry_of_dataParent? hp] at h
    rw [dataAncestry_inj (List.append_inj_left' h rfl)]

theorem index_le_of_mem_dataAncestry {n a : Node s} (h : a ∈ n.dataAncestry) :
    a.id.index ≤ n.id.index := by
  induction n using dataAncestry.induct with
  | case1 n hn =>
    rw [dataAncestry_of_root hn] at h
    exact Nat.le_of_eq (congrArg (·.id.index) (List.mem_singleton.1 h))
  | case2 n p hp ih =>
    rw [dataAncestry_of_dataParent? hp, List.mem_append, List.mem_singleton] at h
    obtain h | rfl := h
    · exact Nat.le_of_lt (Nat.lt_of_le_of_lt (ih h) (index_dataParent?_lt hp))
    · exact Nat.le_refl _

theorem nodup_dataAncestry (n : Node s) : n.dataAncestry.Nodup := by
  induction n using dataAncestry.induct with
  | case1 n hn => simp [dataAncestry_of_root hn]
  | case2 n p hp ih =>
    rw [dataAncestry_of_dataParent? hp, List.nodup_append]
    refine ⟨ih, by simp, ?_⟩
    rintro a ha b hb rfl
    rw [List.mem_singleton] at hb
    subst hb
    exact absurd (index_le_of_mem_dataAncestry ha) (Nat.not_le_of_lt (index_dataParent?_lt hp))

theorem dataAncestry_of_split {n a : Node s} {above below : List (Node s)}
    (h : n.dataAncestry = above ++ a :: below) : a.dataAncestry = above ++ [a] := by
  induction n using dataAncestry.induct generalizing below with
  | case1 n hn =>
    rw [dataAncestry_of_root hn, List.singleton_eq_append_iff] at h
    obtain ⟨rfl, hcons⟩ | ⟨-, hcons⟩ := h
    · obtain ⟨rfl, -⟩ := List.cons.inj hcons
      exact dataAncestry_of_root hn
    · cases hcons
  | case2 n p hp ih =>
    rw [dataAncestry_of_dataParent? hp] at h
    obtain rfl | ⟨front, last, rfl⟩ := List.eq_nil_or_concat below
    · obtain ⟨habove, hlast⟩ := List.append_inj' h rfl
      rw [← List.singleton_inj.1 hlast, dataAncestry_of_dataParent? hp, habove]
    · rw [List.concat_eq_append, ← List.cons_append, ← List.append_assoc] at h
      exact ih (List.append_inj_left' h rfl)

/-- What comes on a data path after the path to some node has a data node above it. -/
theorem exists_dataParent?_of_mem_rest {n a b : Node s} {rest : List (Node s)}
    (h : n.dataAncestry = a.dataAncestry ++ rest) (hb : b ∈ rest) :
    ∃ p, b.dataParent? = some p := by
  obtain ⟨above, below, rfl⟩ := List.append_of_mem hb
  rw [← List.append_assoc] at h
  have hpath := dataAncestry_of_split h
  cases hp : b.dataParent? with
  | some p => exact ⟨p, rfl⟩
  | none =>
    rw [dataAncestry_of_root hp] at hpath
    have hnil := List.append_cancel_right ((List.nil_append [b]).trans hpath)
    exact absurd (List.append_eq_nil_iff.1 hnil.symm).1 a.dataAncestry_ne_nil

theorem isData_of_dataParent? {n p : Node s} (h : n.dataParent? = some p) : p.isData = true :=
  List.find?_some h

theorem isData_of_mem_dataAncestry {n a : Node s} (hn : n.isData = true) (h : a ∈ n.dataAncestry) :
    a.isData = true := by
  induction n using dataAncestry.induct with
  | case1 n hroot =>
    rw [dataAncestry_of_root hroot, List.mem_singleton] at h
    rwa [h]
  | case2 n p hp ih =>
    rw [dataAncestry_of_dataParent? hp, List.mem_append, List.mem_singleton] at h
    obtain h | rfl := h
    · exact ih (isData_of_dataParent? hp) h
    · exact hn

/-- A data path through `a` begins with the data path to `a`. -/
theorem dataAncestry_prefix {n a : Node s} (h : a ∈ n.dataAncestry) :
    a.dataAncestry <+: n.dataAncestry := by
  obtain ⟨above, below, hsplit⟩ := List.append_of_mem h
  refine ⟨below, ?_⟩
  rw [dataAncestry_of_split hsplit, hsplit, List.append_assoc, List.singleton_append]

theorem head?_dataAncestry_eq_root (hr : s.IsRooted) (n : Node s) :
    n.dataAncestry.head? = some n.root := by
  induction n using dataAncestry.induct with
  | case1 n hn =>
    rw [dataAncestry_of_root hn, root_of_parent?_eq_none (parent?_of_dataParent?_eq_none hr hn)]
    rfl
  | case2 n p hp ih =>
    rw [dataAncestry_of_dataParent? hp, List.head?_append, ih, root_of_dataParent? hp]
    rfl

theorem dataAncestry_root (n : Node s) : n.root.dataAncestry = [n.root] :=
  dataAncestry_of_root (dataParent?_of_root (parent?_root n))

/-- Data paths begin with the root, which printed data paths leave out. -/
theorem dataAncestry_eq_root_append (hr : s.IsRooted) (n : Node s) :
    n.dataAncestry = n.root.dataAncestry ++ n.dataAncestry.drop 1 := by
  obtain ⟨rest, hrest⟩ := List.head?_eq_some_iff.1 (head?_dataAncestry_eq_root hr n)
  simp [dataAncestry_root, hrest]

/-- Where `n` lies strictly below the data node `a`, its data path goes on from that of `a`. -/
theorem dataAncestry_of_mem_ancestors {n a : Node s} (h : a ∈ n.ancestors)
    (ha : a.isData = true) : ∃ rest, rest ≠ [] ∧ n.dataAncestry = a.dataAncestry ++ rest := by
  induction n using dataAncestry.induct with
  | case1 n hn =>
    obtain ⟨p, hp, -⟩ := dataParent?_of_mem_ancestors h ha
    simp [hn] at hp
  | case2 n p hp ih =>
    obtain ⟨q, hq, haq⟩ := dataParent?_of_mem_ancestors h ha
    obtain rfl : p = q := Option.some.inj (hp.symm.trans hq)
    rw [dataAncestry_of_dataParent? hp]
    obtain rfl | haq := List.mem_cons.1 haq
    · exact ⟨[n], by simp, rfl⟩
    · obtain ⟨rest, -, hrest⟩ := ih haq
      exact ⟨rest ++ [n], by simp, by rw [hrest, List.append_assoc]⟩

end YangBind.Node
