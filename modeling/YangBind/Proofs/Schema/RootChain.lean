import Mathlib.Logic.ExistsUnique
import YangBind.Proofs.Schema.DataLineage

/-! The chain from the root of its module down to a node, choices and cases included, and what the
node has from it. Data ancestry, paths and modules run along the chain without its choices and
cases, in step with one another; the effective `config` value is that of the last entry of the whole
chain that has one. -/

namespace YangBind.Node

variable {s : Schema}

/-- The nodes from a module down to `n`, each the parent of the next. -/
inductive HasChain : Node s → List (Node s) → Prop
  | root {r : Node s} : r.kind = .module → r.entry.parent = none → HasChain r [r]
  | link {n p : Node s} {chain : List (Node s)} :
      n.entry.parent = some p.id → HasChain p chain → HasChain n (chain ++ [n])

theorem hasChain_lineage (hr : s.IsRooted) (n : Node s) : n.HasChain n.lineage.reverse := by
  induction n using ancestors.induct with
  | case1 n hn =>
    rw [lineage_of_root hn]
    exact .root (kind_of_root hr hn) ((parent?_eq_none_iff hr).1 hn)
  | case2 n p hp ih =>
    rw [lineage_of_parent? hp, List.reverse_cons]
    exact .link ((parent?_eq_some_iff hr).1 hp) ih

theorem HasChain.eq_lineage (hr : s.IsRooted) {n : Node s} {chain : List (Node s)}
    (h : n.HasChain chain) : chain = n.lineage.reverse := by
  induction h with
  | root _ hparent =>
    rw [lineage_of_root ((parent?_eq_none_iff hr).2 hparent)]
    rfl
  | link hparent _ ih =>
    rw [lineage_of_parent? ((parent?_eq_some_iff hr).2 hparent), List.reverse_cons, ih]

theorem hasChain_iff (hr : s.IsRooted) {n : Node s} {chain : List (Node s)} :
    n.HasChain chain ↔ chain = n.lineage.reverse :=
  ⟨HasChain.eq_lineage hr, fun h => h ▸ hasChain_lineage hr n⟩

theorem isData_iff {n : Node s} : n.isData = true ↔ n.kind ≠ .choice ∧ n.kind ≠ .case := by
  rw [isData]
  cases n.kind <;> decide

/-- The data path to `n` without `n` itself. -/
theorem dataAncestry_eq_concat (n : Node s) :
    n.dataAncestry = n.dataParent?.elim [] dataAncestry ++ [n] := by
  rw [dataAncestry_eq]
  cases n.dataParent? <;> rfl

/-- Going up from data node to data node meets the data nodes among all the nodes above. -/
theorem dataAncestry_eq_filter (n : Node s) :
    n.dataAncestry = n.ancestors.reverse.filter isData ++ [n] := by
  induction n using ancestors.induct with
  | case1 n hn => rw [dataAncestry_of_root (dataParent?_of_root hn), ancestors_eq, hn]; rfl
  | case2 n p hp ih =>
    rw [dataAncestry_eq_concat, dataParent?_of_parent? hp, ancestors_of_parent? hp, lineage,
      List.reverse_cons, List.filter_append]
    cases hdata : p.isData with
    | true => simp [hdata, ih]
    | false =>
      -- a hidden parent has the same data nodes above it as `n` has
      rw [dataAncestry_eq_concat p] at ih
      simp [hdata, List.append_cancel_right ih]

theorem not_mem_ancestors (n : Node s) : n ∉ n.ancestors :=
  fun h => Nat.lt_irrefl _ (index_lt_of_mem_ancestors h)

theorem dataAncestry_eq_filter_lineage (n : Node s) :
    n.dataAncestry =
      n.lineage.reverse.filter fun a => ¬((a.kind = .choice ∨ a.kind = .case) ∧ a ≠ n) := by
  rw [dataAncestry_eq_filter, lineage, List.reverse_cons, List.filter_append]
  congr 1
  · apply List.filter_congr
    intro a ha
    have hne : a ≠ n := by
      rintro rfl
      exact not_mem_ancestors a (List.mem_reverse.1 ha)
    rw [Bool.eq_iff_iff, isData_iff]
    simp [hne]
  · simp

theorem head?_reverse_lineage (n : Node s) : n.lineage.reverse.head? = some n.root := by
  rw [List.head?_reverse, root, List.getLast?_eq_some_getLast]

theorem isConfig_eq (n : Node s) :
    n.isConfig = ((n.lineage.reverse.filterMap (·.entry.config)).getLast?).getD true := by
  rw [List.filterMap_reverse, List.getLast?_reverse, List.head?_filterMap, isConfig]

theorem dataPath_eq_eraseIdx (n : Node s) : n.dataPath = ⟨n.schemaPath.segments.eraseIdx 1⟩ := by
  simp [dataPath, schemaPath]

/-- Each node of a finished schema has one chain, which begins with its root. The data ancestry is
the chain without the choices and cases above the node, and the paths and modules of the node are
read off it; its `config` value is the last one that is given along the whole chain. -/
theorem paths_of_hasChain (hs : s.Finished) (n : Node s) :
    (∃! chain, n.HasChain chain) ∧ ∀ chain, n.HasChain chain →
      let shown := chain.filter fun a => ¬((a.kind = .choice ∨ a.kind = .case) ∧ a ≠ n)
      chain.head? = some n.root ∧
        n.dataAncestry = shown ∧
        n.schemaPath = ⟨"" :: shown.map name⟩ ∧
        n.pathModules = "" :: shown.map module ∧
        n.pathModules.length = n.schemaPath.segments.length ∧
        n.dataPath = ⟨n.schemaPath.segments.eraseIdx 1⟩ ∧
        n.isConfig = ((chain.filterMap (·.entry.config)).getLast?).getD true := by
  have hr := hs.isRooted
  refine ⟨⟨n.lineage.reverse, hasChain_lineage hr n, fun _ h => h.eq_lineage hr⟩, ?_⟩
  intro chain h
  obtain rfl := h.eq_lineage hr
  have hshown := n.dataAncestry_eq_filter_lineage
  exact ⟨n.head?_reverse_lineage, hshown, by rw [schemaPath, hshown], by rw [pathModules, hshown],
    n.length_pathModules, n.dataPath_eq_eraseIdx, n.isConfig_eq⟩

/-- A choice with a `config` value of its own, below it a container from another module, and in this
one a choice again. -/
def hiddenConfig : Schema := (Draft.empty.run [
  .module "m",
  .add ⟨0⟩ { EntrySpec.container "c" with config := some true },
  .add ⟨1⟩ { EntrySpec.choice "way" with config := some false },
  .add ⟨2⟩ (.case "near"),
  .add ⟨3⟩ { EntrySpec.container "d" with module := some "n" },
  .add ⟨4⟩ (.choice "inner"),
  .add ⟨5⟩ (.leaf "x" "string")]).2.schema

theorem finished_hiddenConfig : hiddenConfig.Finished := Schema.finished_run (by decide +kernel)

/-- The nodes of `hiddenConfig` in order of its steps. -/
def hiddenConfigNode (i : Fin 7) : Node hiddenConfig :=
  (hiddenConfig.node? (.ofIndex i)).get (by revert i; decide +kernel)

/-- A leaf with hidden nodes above it, one of which gives its `config` value, and a case, which
stands on its own data path. -/
theorem paths_of_hasChain_hiddenConfig :
    (hiddenConfigNode 6).HasChain ([0, 1, 2, 3, 4, 5, 6].map hiddenConfigNode) ∧
      (hiddenConfigNode 6).dataAncestry = [0, 1, 4, 6].map hiddenConfigNode ∧
      (hiddenConfigNode 6).schemaPath = ⟨["", "m", "c", "d", "x"]⟩ ∧
      (hiddenConfigNode 6).pathModules = ["", "m", "m", "n", "n"] ∧
      (hiddenConfigNode 6).dataPath = ⟨["", "c", "d", "x"]⟩ ∧
      (hiddenConfigNode 6).isConfig = false ∧
      (hiddenConfigNode 3).HasChain ([0, 1, 2, 3].map hiddenConfigNode) ∧
      (hiddenConfigNode 3).schemaPath = ⟨["", "m", "c", "near"]⟩ := by
  have hr := finished_hiddenConfig.isRooted
  have hleaf : (hiddenConfigNode 6).HasChain ([0, 1, 2, 3, 4, 5, 6].map hiddenConfigNode) :=
    (hasChain_iff hr).2 (by decide +kernel)
  have hcase : (hiddenConfigNode 3).HasChain ([0, 1, 2, 3].map hiddenConfigNode) :=
    (hasChain_iff hr).2 (by decide +kernel)
  obtain ⟨-, hancestry, hpath, hmodules, -, hdata, hconfig⟩ :=
    (paths_of_hasChain finished_hiddenConfig (hiddenConfigNode 6)).2 _ hleaf
  obtain ⟨-, -, hcasePath, -⟩ :=
    (paths_of_hasChain finished_hiddenConfig (hiddenConfigNode 3)).2 _ hcase
  exact ⟨hleaf, hancestry.trans (by decide +kernel), hpath.trans (by decide +kernel),
    hmodules.trans (by decide +kernel), hdata.trans (by decide +kernel),
    hconfig.trans (by decide +kernel), hcase, hcasePath.trans (by decide +kernel)⟩

end YangBind.Node
