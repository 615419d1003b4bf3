import YangBind.Mapper.CamelCase
import YangBind.Proofs.Directory.PathOutcome
import YangBind.Proofs.Schema.Visibility

/-! The aliases of list keys. An alias bears the name of the leaf that the key stands for and is
given only if the primary leaf of the field is that leaf. So it leads to the key just where the key
has the name of that leaf, and there is none where the primary leaf lies on the other branch. -/

namespace YangBind

variable {s : Schema}

theorem Schema.anyAt_nodes (path : SchemaPath) (nodes : List (Node s)) :
    s.anyAt path (nodes.map (·.id)) = .ok (nodes.any fun n => n.schemaPath = path) := by
  induction nodes with
  | nil => rfl
  | cons n rest ih =>
    simp only [List.map_cons, anyAt, Directory.require_id, List.any_cons, ih]
    by_cases h : n.schemaPath = path <;> simp [h]

namespace Directory

variable {d : Directory} {key : String} {b : Branch} {mode : PathMode}

theorem listKeyAlias?_eq {p : Node s} {nodes : List (Node s)}
    (hk : d.keyElems = some (nodes.map (·.id))) (hp : d.fields.find? key = some p.id)
    (hbelow : p.schemaPath.isBelow d.path = true) :
    d.listKeyAlias? s key mode = .ok (if 2 ≤ (d.pathTo .relative p).path.length ∧
      ∃ e ∈ nodes, e.schemaPath = p.schemaPath then some (d.aliasOf mode p) else none) := by
  rw [listKeyAlias?_of_locate hk (locate_below hp hbelow), Schema.anyAt_nodes]
  by_cases hfar : d.path.length + 2 ≤ p.schemaPath.length
  · simp [two_le_length_pathTo, hfar, Except.map]
  · simp [two_le_length_pathTo, hfar]

/-- The paths of a field of a list whose containers are folded: the alias depends on the primary
leaf `p` alone, whichever leaf `q` the branch has. -/
theorem mappedPaths_eq {p q : Node s} {nodes : List (Node s)}
    (hk : d.keyElems = some (nodes.map (·.id))) (hp : d.fields.find? key = some p.id)
    (hpb : p.schemaPath.isBelow d.path = true) (hq : (d.branch b).find? key = some q.id)
    (hqb : q.schemaPath.isBelow d.path = true) :
    d.mappedPaths s key true b mode = .ok (d.pathTo mode q ::
      if 2 ≤ (d.pathTo .relative p).path.length ∧ ∃ e ∈ nodes, e.schemaPath = p.schemaPath
      then [d.aliasOf mode p] else []) := by
  rw [mappedPaths_of_locate (locate_below hq hqb), if_pos rfl, listKeyAlias?_eq hk hp hpb]
  split <;> rfl

/-- What starting a directory comes to when the mapper has a name for it. -/
theorem forNode_eq_ok {m : Mapper} {n : Node s} {c : CompressBehaviour}
    (h : (forNode m n c).outcome = .ok d) :
    ∃ name, m.directoryName n c = .ok name ∧ d = {
      name
      entry := n.id
      path := n.schemaPath
      keyElems := if n.entry.isList then some (n.keyLeaves.map (·.id)) else none } := by
  obtain ⟨name, hname, h⟩ := Traced.outcome_bind_eq_ok_iff.1 h
  cases h
  exact ⟨name, Mapper.outcome_ask_eq_ok_iff.1 hname, rfl⟩

theorem forNode_ok {m : Mapper} {n : Node s} {c : CompressBehaviour}
    (h : (forNode m n c).outcome = .ok d) :
    d.path = n.schemaPath ∧
      d.keyElems = if n.entry.isList then some (n.keyLeaves.map (·.id)) else none := by
  obtain ⟨name, -, rfl⟩ := forNode_eq_ok h
  exact ⟨rfl, rfl⟩

end Directory

namespace Node

/-- Whether the data path to `n` goes on from that to `l` by these names. -/
def LiesAt (l : Node s) (names : List String) (n : Node s) : Prop :=
  ∃ rest, n.dataAncestry = l.dataAncestry ++ rest ∧ rest.map name = names

/-- Whether the names of `p` lead from the list `l` to `e`, or to a leaf of `l` that refers to `e`.
-/
def Denotes (l e : Node s) (p : SchemaPath) : Prop :=
  ∃ x, l.descend? p.segments = some x ∧
    (x = e ∨ x.entry.isLeaf = true ∧ x.dataParent? = some l ∧ x.leafrefTarget? = some e)

variable {l n : Node s} {names : List String} {rest : List (Node s)}

theorem isBelow_of_dataAncestry (h : n.dataAncestry = l.dataAncestry ++ rest) (hne : rest ≠ []) :
    n.schemaPath.isBelow l.schemaPath = true := by
  rw [SchemaPath.isBelow_iff]
  exact ⟨rest.map name, by simpa using hne, by simp [schemaPath, h]⟩

theorem LiesAt.isBelow (h : l.LiesAt names n) (hne : names ≠ []) :
    n.schemaPath.isBelow l.schemaPath = true := by
  obtain ⟨rest, hrest, rfl⟩ := h
  exact isBelow_of_dataAncestry hrest (by simpa using hne)

theorem LiesAt.name_eq {x y : String} (h : l.LiesAt [x, y] n) : n.name = y := by
  obtain ⟨rest, hrest, hnames⟩ := h
  have hlast := congrArg (Option.map name) n.getLast?_dataAncestry
  rw [← List.getLast?_map, hrest, List.map_append, hnames, List.getLast?_append] at hlast
  exact (Option.some.inj hlast).symm

end Node

/-- One thing for each branch. -/
def Branch.pick {α : Type} (onPrimary onShadow : α) : Branch → α
  | .primary => onPrimary
  | .shadow => onShadow

namespace Directory

variable {d d₀ : Directory} {key : String} {l : Node s} {m : Mapper} {c : CompressBehaviour}

theorem path_pathTo_of_dataAncestry {n : Node s} {rest : List (Node s)} (hd : d.path = l.schemaPath)
    (h : n.dataAncestry = l.dataAncestry ++ rest) :
    (d.pathTo .relative n).path = ⟨rest.map Node.name⟩ := by
  simp [pathTo, hd, SchemaPath.drop, SchemaPath.length, Node.schemaPath, h]

theorem path_pathTo_of_liesAt {n : Node s} {names : List String} (hd : d.path = l.schemaPath)
    (h : l.LiesAt names n) : (d.pathTo .relative n).path = ⟨names⟩ := by
  obtain ⟨rest, hrest, rfl⟩ := h
  exact path_pathTo_of_dataAncestry hd hrest

theorem paths_of_split_key (key : String) (leafOn : Branch → Node s) (container : Branch → String)
    (hd : d.path = l.schemaPath) (helems : d.keyElems = some (l.keyLeaves.map (·.id)))
    (hfound : ∀ b, (d.branch b).find? key = some (leafOn b).id)
    (hat : ∀ b, l.LiesAt [container b, key] (leafOn b)) (b : Branch) :
    (d.mappedPaths s key true b .relative).map (·.map MappedPath.path) =
      .ok (⟨[container b, key]⟩ ::
        if ∃ e ∈ l.keyLeaves, e.schemaPath = (leafOn .primary).schemaPath
        then [⟨[key]⟩] else []) := by
  have hbelow : ∀ b, (leafOn b).schemaPath.isBelow d.path = true := by
    intro b
    rw [hd]
    exact (hat b).isBelow (by simp)
  have hname : (leafOn .primary).name = key :=
    Node.LiesAt.name_eq (hat .primary)
  have hlen : 2 ≤ (d.pathTo .relative (leafOn .primary)).path.length := by
    rw [path_pathTo_of_liesAt hd (hat .primary)]
    exact Nat.le_refl 2
  rw [mappedPaths_eq helems (hfound .primary) (hbelow .primary) (hfound b) (hbelow b)]
  by_cases h : ∃ e ∈ l.keyLeaves, e.schemaPath = (leafOn .primary).schemaPath
  · rw [if_pos ⟨hlen, h⟩, if_pos h]
    simp [Except.map, path_pathTo_of_liesAt hd (hat b), aliasOf, hname]
  · rw [if_neg fun h' => h h'.2, if_neg h]
    simp [Except.map, path_pathTo_of_liesAt hd (hat b)]

/-- A list whose key `id` refers to a leaf of another name, and whose key `k` refers to a leaf that
exists on both branches. -/
def splitList : Schema := (Draft.empty.run [
  .module "m",
  .add ⟨0⟩ (.list "l" ["id", "k"]),
  .add ⟨1⟩ (.leafref "id" "../config/name"),
  .add ⟨1⟩ (.leafref "k" "../config/k"),
  .add ⟨1⟩ (.container "config"),
  .add ⟨4⟩ (.leaf "name" "string"),
  .add ⟨4⟩ (.leaf "k" "string"),
  .add ⟨1⟩ (.container "state"),
  .add ⟨7⟩ (.leaf "k" "string")]).2.schema

theorem finished_splitList : splitList.Finished := Schema.finished_run (by decide +kernel)

/-- The nodes of `splitList` in order of its steps. -/
def splitNode (i : Fin 9) : Node splitList :=
  (splitList.node? (.ofIndex i)).get (by revert i; decide +kernel)

/-- The directory for the list, without fields. -/
def splitDirectory : Directory where
  name := "L"
  entry := ⟨1⟩
  path := ⟨["", "m", "l"]⟩
  keyElems := some [⟨5⟩, ⟨6⟩]

theorem forNode_splitList :
    (forNode (CamelCase.ofEnums []).mapper (splitNode 1) .preferIntendedConfig).outcome =
      .ok splitDirectory := by
  decide +kernel

/-- The paths of a key whose leaf exists on both branches. With `config` as the primary branch there
are two on either branch. With `state` as the primary branch the alias is missing on both, unless
the `state` leaf stands for a key of its own. -/
theorem mappedPaths_of_split_key {leaf cfg st : Node s} (hd : (forNode m l c).outcome = .ok d₀)
    (hlist : l.entry.isList = true) (hkey : key ∈ l.entry.keys)
    (hleaf : l.dataChild? key = some leaf) (hcfg : leaf.leafrefTarget? = some cfg)
    (hcfgAt : l.LiesAt ["config", key] cfg) (hstAt : l.LiesAt ["state", key] st) :
    let paths (primary shadow : Node s) (b : Branch) :=
      (((d₀.withField key primary.id).withShadowed key shadow.id).mappedPaths s key true b
        .relative).map (·.map MappedPath.path)
    let stateAlias : List SchemaPath :=
      if ∃ e ∈ l.keyLeaves, e.schemaPath = st.schemaPath then [⟨[key]⟩] else []
    paths cfg st .primary = .ok [⟨["config", key]⟩, ⟨[key]⟩] ∧
      paths cfg st .shadow = .ok [⟨["state", key]⟩, ⟨[key]⟩] ∧
      paths st cfg .primary = .ok (⟨["state", key]⟩ :: stateAlias) ∧
      paths st cfg .shadow = .ok (⟨["config", key]⟩ :: stateAlias) := by
  obtain ⟨hpath, helems⟩ := forNode_ok hd
  rw [if_pos hlist] at helems
  have hmem : ∃ e ∈ l.keyLeaves, e.schemaPath = cfg.schemaPath := by
    refine ⟨cfg, List.mem_map.2 ⟨leaf, List.mem_filterMap.2 ⟨key, hkey, hleaf⟩, ?_⟩, rfl⟩
    rw [hcfg, Option.getD_some]
  have hconfig := paths_of_split_key key (Branch.pick cfg st) (Branch.pick "config" "state")
    (d := (d₀.withField key cfg.id).withShadowed key st.id) hpath helems
    (by intro b; cases b <;> simp [Branch.pick, branch, withField, withShadowed])
    (by intro b; cases b; exacts [hcfgAt, hstAt])
  have hstate := paths_of_split_key key (Branch.pick st cfg) (Branch.pick "state" "config")
    (d := (d₀.withField key st.id).withShadowed key cfg.id) hpath helems
    (by intro b; cases b <;> simp [Branch.pick, branch, withField, withShadowed])
    (by intro b; cases b; exacts [hstAt, hcfgAt])
  refine ⟨(hconfig .primary).trans ?_, (hconfig .shadow).trans ?_, hstate .primary,
    hstate .shadow⟩
  all_goals
    rw [if_pos (by exact hmem)]
    rfl

theorem mappedPaths_of_split_key_splitList :
    (splitNode 3).leafrefTarget? = some (splitNode 6) ∧
      (((splitDirectory.withField "k" (splitNode 6).id).withShadowed "k"
        (splitNode 8).id).mappedPaths splitList "k" true .shadow .relative).map
          (·.map MappedPath.path) = .ok [⟨["state", "k"]⟩, ⟨["k"]⟩] := by
  have href : (splitNode 3).leafrefTarget? = some (splitNode 6) := by decide +kernel
  have hcfg : (splitNode 1).LiesAt ["config", "k"] (splitNode 6) :=
    ⟨[splitNode 4, splitNode 6], by decide +kernel, by decide +kernel⟩
  have hst : (splitNode 1).LiesAt ["state", "k"] (splitNode 8) :=
    ⟨[splitNode 7, splitNode 8], by decide +kernel, by decide +kernel⟩
  exact ⟨href, (mappedPaths_of_split_key forNode_splitList (by decide +kernel)
    (by decide +kernel) (by decide +kernel) href hcfg hst).2.1⟩

/-- With `state` as the primary branch the key `k` of `splitList` has no alias on either branch. -/
theorem no_alias_of_state_primary :
    let d := (splitDirectory.withField "k" (splitNode 8).id).withShadowed "k" (splitNode 6).id
    (d.mappedPaths splitList "k" true .primary .relative).map (·.map MappedPath.path) =
        .ok [⟨["state", "k"]⟩] ∧
      (d.mappedPaths splitList "k" true .shadow .relative).map (·.map MappedPath.path) =
        .ok [⟨["config", "k"]⟩] := by
  constructor <;> decide +kernel

theorem length_lt_two_iff {e : Node s} {rest : List (Node s)}
    (h : e.dataAncestry = l.dataAncestry ++ rest) (hne : rest ≠ []) :
    rest.length < 2 ↔ e.dataParent? = some l := by
  constructor
  · intro hlen
    cases rest with
    | nil => exact absurd rfl hne
    | cons x tail =>
      cases tail with
      | nil => exact Node.dataParent?_of_dataAncestry h
      | cons y tail =>
        simp only [List.length_cons] at hlen
        omega
  · intro hp
    rw [Node.dataAncestry_of_dataParent? hp] at h
    rw [← List.append_cancel_left h]
    exact Nat.one_lt_two

/-- An alias leads to the key only through a leaf of the list that refers to it. -/
theorem denotes_alias_iff (hf : s.IsForest) {e : Node s} (hl : l.isData = true)
    (he : e.dataParent? ≠ some l) :
    l.Denotes e ⟨[e.name]⟩ ↔
      ∃ x, l.dataChild? e.name = some x ∧ x.entry.isLeaf = true ∧ x.leafrefTarget? = some e := by
  have hdesc : ∀ x, l.descend? [e.name] = some x ↔ l.dataChild? e.name = some x := by
    intro x
    simp [Node.descend?]
  constructor
  · rintro ⟨x, hx, rfl | ⟨hleaf, -, href⟩⟩
    · exact absurd (Node.dataParent?_of_dataChild? hf hl ((hdesc x).1 hx)) he
    · exact ⟨x, (hdesc x).1 hx, hleaf, href⟩
  · rintro ⟨x, hx, hleaf, href⟩
    exact ⟨x, (hdesc x).2 hx, .inr ⟨hleaf, Node.dataParent?_of_dataChild? hf hl hx, href⟩⟩

/-- The paths of a key leaf `e` below its list `l`. The leaf's own path always leads to it. Unless
the leaf stands in the list itself there is also the alias, which leads to the key only if the leaf
of the list that has the name of `e` refers to `e`. -/
theorem mappedPaths_denote_iff (hs : s.Finished) (hsize : s.size ≤ UInt32.size) {e : Node s}
    (hd : (forNode m l c).outcome = .ok d₀) (hkey : e.id ∈ d₀.keyElems.getD [])
    (hbelow : l ∈ e.ancestors) {fields : NameMap EntryId} (shadowed : NameMap EntryId)
    (hfield : fields.find? key = some e.id) :
    ∃ real rest,
      { d₀ with fields, shadowed : Directory }.mappedPaths s key true .primary .relative =
        .ok (real :: rest) ∧
      l.descend? real.path.segments = some e ∧
      rest = (if e.dataParent? = some l then [] else [⟨⟨[e.name]⟩, [e.module]⟩]) ∧
      ((∀ p ∈ real :: rest, l.Denotes e p.path) ↔ e.dataParent? = some l ∨
        ∃ x, l.dataChild? e.name = some x ∧ x.entry.isLeaf = true ∧
          x.leafrefTarget? = some e) := by
  have hf := hs.isForest hsize
  obtain ⟨hpath, helems⟩ := forNode_ok hd
  split at helems
  case isFalse => simp [helems] at hkey
  case isTrue hlist =>
    have hl := Node.isData_of_isList hlist
    have he : e ∈ l.keyLeaves := by
      simpa [helems, Node.id_inj] using hkey
    obtain ⟨rest, hne, hrest⟩ := Node.dataAncestry_of_mem_ancestors hbelow hl
    have hdesc := Node.descend?_of_mem_keyLeaves hf hl he hrest
    set d : Directory := { d₀ with fields, shadowed } with hdef
    have hdpath : d.path = l.schemaPath := hpath
    have hreal : (d.pathTo .relative e).path = ⟨rest.map Node.name⟩ :=
      path_pathTo_of_dataAncestry hdpath hrest
    have hbelow' : e.schemaPath.isBelow d.path = true := by
      rw [hdpath]
      exact Node.isBelow_of_dataAncestry hrest hne
    have hmapped : d.mappedPaths s key true .primary .relative = _ :=
      mappedPaths_eq helems hfield hbelow' hfield hbelow'
    have hlen : (d.pathTo .relative e).path.length = rest.length := by
      rw [hreal]
      exact List.length_map ..
    have hdenotes : l.Denotes e (d.pathTo .relative e).path := by
      rw [hreal]
      exact ⟨e, hdesc, .inl rfl⟩
    by_cases hp : e.dataParent? = some l
    · have hlt := (length_lt_two_iff hrest hne).2 hp
      rw [if_neg (by omega)] at hmapped
      refine ⟨_, _, hmapped, hreal ▸ hdesc, by rw [if_pos hp], ?_⟩
      simp [hp, hdenotes]
    · have hle : ¬rest.length < 2 := fun h => hp ((length_lt_two_iff hrest hne).1 h)
      rw [if_pos ⟨by omega, e, he, rfl⟩] at hmapped
      refine ⟨_, _, hmapped, hreal ▸ hdesc, by rw [if_neg hp]; rfl, ?_⟩
      rw [List.forall_mem_cons, List.forall_mem_singleton, ← denotes_alias_iff hf hl hp]
      simp only [hdenotes, hp, true_and, false_or]
      rfl

theorem mappedPaths_denote_iff_splitList :
    ∃ real rest,
      { splitDirectory with fields := .ofList [("k", ⟨6⟩)], shadowed := .empty }.mappedPaths
        splitList "k" true .primary .relative = .ok (real :: rest) ∧
      (splitNode 1).descend? real.path.segments = some (splitNode 6) ∧
      ∀ p ∈ real :: rest, (splitNode 1).Denotes (splitNode 6) p.path := by
  have hfield : (NameMap.ofList [("k", (⟨6⟩ : EntryId))]).find? "k" = some (splitNode 6).id := by
    decide +kernel
  obtain ⟨real, rest, hpaths, hreal, -, hiff⟩ := mappedPaths_denote_iff finished_splitList
    (by decide +kernel) forNode_splitList (by decide +kernel) (by decide +kernel) .empty hfield
  exact ⟨real, rest, hpaths, hreal,
    hiff.2 (.inr ⟨splitNode 3, by decide +kernel, by decide +kernel, by decide +kernel⟩)⟩

/-- The alias of the key `id` of `splitList` leads nowhere. -/
theorem alias_of_id_denotes_nothing :
    (splitNode 5).id ∈ splitDirectory.keyElems.getD [] ∧
      splitNode 1 ∈ (splitNode 5).ancestors ∧
      ((splitDirectory.withField "id" (splitNode 5).id).mappedPaths splitList "id" true .primary
        .relative).map (·.map MappedPath.path) = .ok [⟨["config", "name"]⟩, ⟨["name"]⟩] ∧
      ¬(splitNode 1).Denotes (splitNode 5) ⟨["name"]⟩ := by
  refine ⟨by decide +kernel, by decide +kernel, by decide +kernel, ?_⟩
  rintro ⟨x, hx, -⟩
  have hnone : (splitNode 1).descend? ["name"] = none := by decide +kernel
  cases hnone.symm.trans hx

end Directory

end YangBind
