import YangBind.Proofs.Schema.DataLineage

/-! Which nodes share a path. A name occurs once among the children of a node, but choices and
cases do not show in paths: two namesakes in different cases of a choice have one path between
them, and so have the nodes below them. No other nodes have. -/

namespace YangBind

/-- Different lists of the same names have a first place where they differ. -/
theorem exists_parting_of_map_eq {α β : Type} {f : α → β} {l r : List α} (h : l.map f = r.map f)
    (hne : l ≠ r) :
    ∃ shared a b as bs, l = shared ++ a :: as ∧ r = shared ++ b :: bs ∧ a ≠ b ∧ f a = f b ∧
      as.map f = bs.map f := by
  induction l generalizing r with
  | nil => exact absurd (List.map_eq_nil_iff.1 h.symm).symm hne
  | cons a as ih =>
    cases r with
    | nil => cases h
    | cons b bs =>
      obtain ⟨hab, hrest⟩ := List.cons.inj h
      by_cases heq : a = b
      · subst heq
        obtain ⟨shared, a', b', as', bs', rfl, rfl, hparting⟩ :=
          ih hrest fun hr => hne (congrArg _ hr)
        exact ⟨a :: shared, a', b', as', bs', rfl, rfl, hparting⟩
      · exact ⟨[], a, b, as, bs, rfl, rfl, heq, hab, hrest⟩

namespace Node

variable {s : Schema}

/-- Whether the node stands directly in a choice or a case. -/
def InChoice (n : Node s) : Prop := ∃ q, n.parent? = some q ∧ q.isData = false

theorem dataParent?_of_not_inChoice {n : Node s} (h : ¬n.InChoice) : n.dataParent? = n.parent? := by
  cases hp : n.parent? with
  | none => exact dataParent?_of_root hp
  | some p =>
    rw [dataParent?_of_parent? hp]
    cases hdata : p.isData with
    | true => rfl
    | false => exact absurd ⟨p, hp, hdata⟩ h

/-- Namesakes with one data parent stand under different parents, one of them a choice or a case. -/
theorem inChoice_of_namesakes (hr : s.IsRooted) {a b : Node s} (hne : a ≠ b)
    (hname : a.name = b.name) (hp : a.dataParent? = b.dataParent?) :
    a.parent? ≠ b.parent? ∧ (a.InChoice ∨ b.InChoice) := by
  have hparents : a.parent? ≠ b.parent? := fun h => hne (eq_of_siblings hr h hname)
  refine ⟨hparents, ?_⟩
  by_cases ha : a.InChoice
  · exact .inl ha
  by_cases hb : b.InChoice
  · exact .inr hb
  rw [dataParent?_of_not_inChoice ha, dataParent?_of_not_inChoice hb] at hp
  exact absurd hp hparents

/-- Modules have different names, so data paths that part at namesakes have a data node in common
before they part. -/
theorem dataParent?_of_parting (hr : s.IsRooted) {a b : Node s} {shared : List (Node s)}
    (ha : a.dataAncestry = shared ++ [a]) (hb : b.dataAncestry = shared ++ [b]) (hne : a ≠ b)
    (hname : a.name = b.name) :
    ∃ p, p.dataAncestry = shared ∧ a.dataParent? = some p ∧ b.dataParent? = some p := by
  cases hp : a.dataParent? with
  | some p =>
    rw [dataAncestry_of_dataParent? hp] at ha
    obtain rfl := List.append_inj_left' ha rfl
    exact ⟨p, rfl, rfl, dataParent?_of_dataAncestry hb⟩
  | none =>
    rw [dataAncestry_of_root hp] at ha
    obtain rfl : [] = shared := List.append_cancel_right ((List.nil_append [a]).trans ha)
    cases hq : b.dataParent? with
    | some q =>
      rw [dataAncestry_of_dataParent? hq] at hb
      exact absurd (List.append_inj_left' hb rfl) q.dataAncestry_ne_nil
    | none =>
      -- neither has a data node above it, so both are modules
      have hroots : a.parent? = b.parent? := by
        rw [parent?_of_dataParent?_eq_none hr hp, parent?_of_dataParent?_eq_none hr hq]
      exact absurd (eq_of_siblings hr hroots hname) hne

/-- Containers of one name in two cases of a choice, each with a leaf of one name. -/
def caseTwins : Schema := (Draft.empty.run [
  .module "m",
  .add ⟨0⟩ (.choice "c"),
  .add ⟨1⟩ (.case "a"),
  .add ⟨2⟩ (.container "x"),
  .add ⟨3⟩ (.leaf "y" "string"),
  .add ⟨1⟩ (.case "b"),
  .add ⟨5⟩ (.container "x"),
  .add ⟨6⟩ (.leaf "y" "string")]).2.schema

theorem finished_caseTwins : caseTwins.Finished := Schema.finished_run (by decide +kernel)

/-- The nodes of `caseTwins` in order of its steps. -/
def caseTwin (i : Fin 8) : Node caseTwins :=
  (caseTwins.node? (.ofIndex i)).get (by revert i; decide +kernel)

/-- Different nodes share a path just where their data paths part at two namesakes below one data
node, of which one at least stands in a choice or a case, and go on by the same names. -/
theorem schemaPath_eq_iff (hs : s.Finished) {m n : Node s} :
    m.schemaPath = n.schemaPath ↔ m = n ∨ ∃ (p a b : Node s) (as bs : List (Node s)),
      m.dataAncestry = p.dataAncestry ++ a :: as ∧ n.dataAncestry = p.dataAncestry ++ b :: bs ∧
        a.name = b.name ∧ as.map name = bs.map name ∧
        a.parent? ≠ b.parent? ∧ (a.InChoice ∨ b.InChoice) := by
  have hr := hs.isRooted
  constructor
  · intro h
    have hnames : m.dataAncestry.map name = n.dataAncestry.map name := by
      simpa [schemaPath] using h
    by_cases heq : m.dataAncestry = n.dataAncestry
    · exact .inl (dataAncestry_inj heq)
    · obtain ⟨shared, a, b, as, bs, hm, hn, hne, hname, hrest⟩ :=
        exists_parting_of_map_eq hnames heq
      obtain ⟨p, rfl, ha, hb⟩ :=
        dataParent?_of_parting hr (dataAncestry_of_split hm) (dataAncestry_of_split hn) hne hname
      exact .inr ⟨p, a, b, as, bs, hm, hn, hname, hrest,
        inChoice_of_namesakes hr hne hname (ha.trans hb.symm)⟩
  · rintro (rfl | ⟨p, a, b, as, bs, hm, hn, hname, hrest, -⟩)
    · rfl
    · simp [schemaPath, hm, hn, hname, hrest]

theorem schemaPath_eq_iff_caseTwins :
    caseTwins.Finished ∧ ∃ (p a b : Node caseTwins) (as bs : List (Node caseTwins)),
      (caseTwin 4).dataAncestry = p.dataAncestry ++ a :: as ∧
        (caseTwin 7).dataAncestry = p.dataAncestry ++ b :: bs ∧
        a.name = b.name ∧ as.map name = bs.map name ∧
        a.parent? ≠ b.parent? ∧ (a.InChoice ∨ b.InChoice) := by
  refine ⟨finished_caseTwins, ?_⟩
  have hpath : (caseTwin 4).schemaPath = (caseTwin 7).schemaPath := by decide +kernel
  exact ((schemaPath_eq_iff finished_caseTwins).1 hpath).resolve_left (by decide +kernel)

theorem caseTwins_share_path :
    caseTwins.Finished ∧ caseTwin 4 ≠ caseTwin 7 ∧ (caseTwin 4).isData = true ∧
      (caseTwin 7).isData = true ∧ (caseTwin 4).schemaPath = (caseTwin 7).schemaPath :=
  ⟨finished_caseTwins, by decide +kernel, by decide +kernel, by decide +kernel, by decide +kernel⟩

end Node

end YangBind
