import YangBind.Proofs.Schema.Faults
import YangBind.Proofs.Schema.PlainPath
import YangBind.Proofs.Schema.Registration

/-! Absolute expressions of plain names. The first name settles the module: the descent goes on in
the first module that has a top-level node of this name, and where it fails there no other module is
tried. -/

namespace YangBind

open Text

namespace Schema

variable {s : Schema}

/-- The schemas that runs build, whether the check at the end accepts them or not. -/
def Built (s : Schema) : Prop := ∃ steps, (Draft.empty.run steps).2.schema = s

theorem Finished.built (h : s.Finished) : s.Built := by
  obtain ⟨steps, h⟩ := h
  exact ⟨steps, (Draft.finish_eq_ok_iff.1 h).1⟩

theorem Built.mem_moduleNodes_iff (hs : s.Built) {r : Node s} :
    r ∈ s.moduleNodes ↔ ∃ m, s.module? m = some r := by
  obtain ⟨steps, rfl⟩ := hs
  obtain ⟨hmodules, hindex⟩ := Draft.modules_run Draft.empty steps
  have hids : ∀ i, i ∈ (Draft.empty.run steps).2.schema.modules ↔
      ∃ m, (Draft.empty.run steps).2.schema.moduleIndex.find? m = some i := by
    intro i
    rw [hmodules]
    simp only [hindex]
    simp [Draft.empty, empty]
  simp only [moduleNodes, module?, List.mem_filterMap, Option.bind_eq_some_iff, hids]
  constructor
  · rintro ⟨i, ⟨m, hm⟩, hr⟩
    exact ⟨m, i, hm, hr⟩
  · rintro ⟨m, i, hm, hr⟩
    exact ⟨i, ⟨m, hm⟩, hr⟩

/-- The first module, in order of registration, that has a top-level node of this name. -/
def firstWith? (s : Schema) (name : String) : Option (Node s) :=
  s.moduleNodes.find? fun r => (r.dataChild? name).isSome

theorem mem_of_firstWith? {name : String} {r : Node s} (h : s.firstWith? name = some r) :
    r ∈ s.moduleNodes ∧ (r.dataChild? name).isSome = true := by
  unfold firstWith? at h
  have htop := List.find?_some h
  exact ⟨List.mem_of_find?_eq_some h, htop⟩

theorem topLevel?_eq (s : Schema) (name : String) :
    s.topLevel? name = (s.firstWith? name).bind (·.dataChild? name) := by
  unfold topLevel? firstWith?
  induction s.moduleNodes with
  | nil => rfl
  | cons r rest ih =>
    cases h : r.dataChild? name with
    | none => simp [h, ih]
    | some x => simp [h]

/-- Where one module alone has such a node, the order of the modules is of no account. -/
theorem firstWith?_of_unique {name : String} {r : Node s} (hr : r ∈ s.moduleNodes)
    (h : (r.dataChild? name).isSome = true)
    (hunique : ∀ r' ∈ s.moduleNodes, (r'.dataChild? name).isSome = true → r' = r) :
    s.firstWith? name = some r := by
  cases hfirst : s.firstWith? name with
  | none => exact absurd h (List.find?_eq_none.1 hfirst r hr)
  | some r' =>
    obtain ⟨hmem, htop⟩ := mem_of_firstWith? hfirst
    rw [hunique r' hmem htop]

theorem find?_plainNames (m : String) {names : List Identifier} (h : names ≠ []) :
    s.find? m (join '/' (plainNames names)) =
      (s.module? m).bind (·.descend? (plainNames names)) := by
  have hfilter : (plainNames names).filter (fun segment => segment ≠ "") = plainNames names := by
    rw [List.filter_eq_self]
    intro name hname
    obtain ⟨i, -, rfl⟩ := List.mem_map.1 hname
    simpa using i.text_ne_empty
  rw [find?, split_join_plainNames h, hfilter]

end Schema

namespace Node

variable {s : Schema}

theorem resolve?_absolute (n : Node s) (first : Identifier) (rest : List Identifier) :
    n.resolve? ("/" ++ join '/' (plainNames (first :: rest))) =
      (s.firstWith? first.text).bind (·.descend? (plainNames (first :: rest))) := by
  rw [resolve?, PathExpr.parse_absolute_plainNames, follow?, Schema.topLevel?_eq, Option.bind_assoc]
  simp only [walk?_down]
  rfl

/-- Two modules with a top-level node `c`, which has other children in the one than in the other. -/
def sharedTopSteps : List Schema.Step := [
  .module "a",
  .add ⟨0⟩ (.container "c"),
  .add ⟨1⟩ (.leaf "x" "string"),
  .module "b",
  .add ⟨3⟩ (.container "c"),
  .add ⟨4⟩ (.leaf "y" "string"),
  .add ⟨3⟩ (.container "d"),
  .add ⟨6⟩ (.leaf "z" "string")]

def sharedTop : Schema := (Draft.empty.run sharedTopSteps).2.schema

theorem finished_sharedTop : sharedTop.Finished := Schema.finished_run (by decide +kernel)

/-- The nodes of `sharedTop` in order of its steps. -/
def sharedTopNode (i : Fin 8) : Node sharedTop :=
  (sharedTop.node? (.ofIndex i)).get (by revert i; decide +kernel)

/-- The same with a leafref in the second module to the leaf `y` beside it. -/
def danglingTop : Schema :=
  (Draft.empty.run (sharedTopSteps ++ [.add ⟨4⟩ (.leafref "r" "/c/y")])).2.schema

/-- An absolute expression of plain names denotes what the path below some module does, provided
that this module is the first one that has a top-level node of the first name. So it denotes a node
exactly if some module has one at the path, as long as no two modules share the name; and a leafref
that the check at the end rejects may have its target in a module that is not the first. -/
theorem resolve?_absolute_iff (hs : s.Built) (first : Identifier) (rest : List Identifier) :
    let path := join '/' (plainNames (first :: rest))
    (∀ n x : Node s, n.resolve? ("/" ++ path) = some x ↔
      ∃ m, s.find? m path = some x ∧ s.module? m = s.firstWith? first.text) ∧
    ((∀ r ∈ s.moduleNodes, ∀ r' ∈ s.moduleNodes, (r.dataChild? first.text).isSome = true →
        (r'.dataChild? first.text).isSome = true → r' = r) →
      ∀ n : Node s, (∃ x, n.resolve? ("/" ++ path) = some x) ↔ ∃ m x, s.find? m path = some x) ∧
    ∀ leaf, Draft.finish ⟨s⟩ = .error (.unresolvedLeafref leaf ("/" ++ path)) →
      ∀ m x, s.find? m path = some x → s.module? m ≠ s.firstWith? first.text := by
  intro path
  have hfind : ∀ m, s.find? m path = (s.module? m).bind (·.descend? (plainNames (first :: rest))) :=
    fun m => Schema.find?_plainNames m (List.cons_ne_nil _ _)
  have hiff : ∀ n x : Node s, n.resolve? ("/" ++ path) = some x ↔
      ∃ m, s.find? m path = some x ∧ s.module? m = s.firstWith? first.text := by
    intro n x
    rw [resolve?_absolute]
    constructor
    · intro h
      obtain ⟨r, hr, -⟩ := Option.bind_eq_some_iff.1 h
      obtain ⟨m, hm⟩ := hs.mem_moduleNodes_iff.1 (Schema.mem_of_firstWith? hr).1
      have hfirst : s.module? m = s.firstWith? first.text := hm.trans hr.symm
      exact ⟨m, by rw [hfind, hfirst, h], hfirst⟩
    · rintro ⟨m, hx, hfirst⟩
      rwa [hfind, hfirst] at hx
  refine ⟨hiff, fun hunique n => ⟨?_, ?_⟩, fun leaf hleaf m x hx hfirst => ?_⟩
  · rintro ⟨x, hx⟩
    obtain ⟨m, hm, -⟩ := (hiff n x).1 hx
    exact ⟨m, x, hm⟩
  · rintro ⟨m, x, hx⟩
    refine ⟨x, (hiff n x).2 ⟨m, hx, ?_⟩⟩
    rw [hfind] at hx
    obtain ⟨r, hr, hx⟩ := Option.bind_eq_some_iff.1 hx
    obtain ⟨top, htop, -⟩ := Option.bind_eq_some_iff.1 hx
    have hmem := hs.mem_moduleNodes_iff.2 ⟨m, hr⟩
    have htop' : (r.dataChild? first.text).isSome = true := by simp [htop]
    rw [hr, Schema.firstWith?_of_unique hmem htop' fun r' hr' => hunique r hmem r' hr' htop']
  · obtain ⟨n, hn⟩ := Schema.exists_of_firstFault? (Draft.finish_eq_error_iff.1 hleaf)
    obtain ⟨-, -, hnone⟩ := Schema.unresolved_of_fault? hn
    cases hnone.symm.trans ((hiff n x).2 ⟨m, hx, hfirst⟩)

theorem resolve?_absolute_iff_sharedTop :
    (sharedTopNode 5).resolve? "/c/x" = some (sharedTopNode 2) ∧
      (∃ x, (sharedTopNode 5).resolve? "/d/z" = some x) ∧
      danglingTop.module? "b" ≠ danglingTop.firstWith? "c" := by
  have hcx : join '/' (plainNames [⟨"c", by decide⟩, ⟨"x", by decide⟩]) = "c/x" := by decide +kernel
  have hdz : join '/' (plainNames [⟨"d", by decide⟩, ⟨"z", by decide⟩]) = "d/z" := by decide +kernel
  have hcy : join '/' (plainNames [⟨"c", by decide⟩, ⟨"y", by decide⟩]) = "c/y" := by decide +kernel
  have hunique : ∀ r ∈ sharedTop.moduleNodes, ∀ r' ∈ sharedTop.moduleNodes,
      (r.dataChild? "d").isSome = true → (r'.dataChild? "d").isSome = true → r' = r := by
    decide +kernel
  have hs := finished_sharedTop.built
  refine ⟨?_, ?_, ?_⟩
  · have hpath := (resolve?_absolute_iff hs ⟨"c", by decide⟩ [⟨"x", by decide⟩]).1
      (sharedTopNode 5) (sharedTopNode 2)
    rw [hcx] at hpath
    exact hpath.2 ⟨"a", by decide +kernel, by decide +kernel⟩
  · have hpath := (resolve?_absolute_iff hs ⟨"d", by decide⟩ [⟨"z", by decide⟩]).2.1 hunique
      (sharedTopNode 5)
    rw [hdz] at hpath
    exact hpath.2 ⟨"b", sharedTopNode 7, by decide +kernel⟩
  · have hbuilt : danglingTop.Built := ⟨_, rfl⟩
    have hpath := (resolve?_absolute_iff hbuilt ⟨"c", by decide⟩ [⟨"y", by decide⟩]).2.2
    rw [hcy] at hpath
    obtain ⟨y, hy⟩ : ∃ y, danglingTop.find? "b" "c/y" = some y :=
      Option.isSome_iff_exists.1 (by decide +kernel)
    exact hpath ⟨["", "b", "c", "r"]⟩ (by decide +kernel) "b" y hy

/-- The leaf that the second module has at the path is not found; a leafref to it is rejected. -/
theorem second_module_is_not_searched :
    sharedTop.Finished ∧ sharedTop.find? "b" "c/y" = some (sharedTopNode 5) ∧
      (sharedTopNode 5).resolve? "/c/y" = none ∧
      (∃ x, danglingTop.find? "b" "c/y" = some x) ∧
      Draft.finish ⟨danglingTop⟩ =
        .error (.unresolvedLeafref ⟨["", "b", "c", "r"]⟩ "/c/y") := by
  refine ⟨finished_sharedTop, by decide +kernel, by decide +kernel, ?_, by decide +kernel⟩
  exact Option.isSome_iff_exists.1 (by decide +kernel)

end Node

end YangBind
