import YangBind.Proofs.Schema.AbsolutePath
import YangBind.Proofs.Schema.DistinctPaths

/-! Every node of the data tree can be referred to. Where data paths tell the nodes apart, the data
path of a node is an absolute expression for it, and from a node of the same module there is a
relative one over each node that lies on both data paths. -/

namespace YangBind

open Text

theorem SchemaPath.render_boundary (first : String) (rest : List String) :
    render ⟨"" :: first :: rest⟩ = "/" ++ join '/' (first :: rest) := by
  have hroot : (⟨"" :: first :: rest⟩ : SchemaPath) ≠ root := by simp [root]
  rw [render, if_neg hroot]
  apply String.toList_injective
  simp [List.intercalate]

/-- The relative expression that goes up so many steps and then down by these names. -/
def relativeText (ups : Nat) (names : List String) : String :=
  match List.replicate ups ".." ++ names with
  | [] => "."
  | segments => join '/' segments

example : relativeText 2 ["a", "b"] = "../../a/b" := by decide +kernel

namespace Node

variable {s : Schema}

/-- The node that so many steps up the data tree lead to. -/
def climb? (n : Node s) : Nat → Option (Node s)
  | 0 => some n
  | k + 1 => n.dataParent?.bind (·.climb? k)

theorem exists_climb?_of_mem_dataAncestry {n a : Node s} (h : a ∈ n.dataAncestry) :
    ∃ k, n.climb? k = some a := by
  induction n using dataAncestry.induct with
  | case1 n hn =>
    rw [dataAncestry_of_root hn, List.mem_singleton] at h
    exact ⟨0, congrArg some h.symm⟩
  | case2 n p hp ih =>
    rw [dataAncestry_of_dataParent? hp, List.mem_append, List.mem_singleton] at h
    obtain h | rfl := h
    · obtain ⟨k, hk⟩ := ih h
      exact ⟨k + 1, by rw [climb?, hp, Option.bind_some, hk]⟩
    · exact ⟨0, rfl⟩

theorem walk?_up (n : Node s) (k : Nat) : n.walk? (List.replicate k .up) = n.climb? k := by
  induction k generalizing n with
  | zero => rfl
  | succ k ih =>
    rw [List.replicate_succ, walk?, List.foldlM_cons, climb?]
    exact congrArg (Option.bind n.dataParent?) (funext ih)

theorem isPlain_relativeSegments {k : Nat} {names : List Identifier} {segment : String}
    (h : segment ∈ List.replicate k ".." ++ plainNames names) : IsPlain segment ∧ segment ≠ "" := by
  obtain h | h := List.mem_append.1 h
  · rw [List.eq_of_mem_replicate h]
    decide
  · obtain ⟨i, -, rfl⟩ := List.mem_map.1 h
    exact ⟨i.isPlain_text, by simpa using i.text_ne_empty⟩

theorem resolve?_relativeText (n : Node s) (k : Nat) (names : List Identifier) :
    n.resolve? (relativeText k (plainNames names)) =
      (n.climb? k).bind (·.descend? (plainNames names)) := by
  have hwalk : n.walk? ((List.replicate k ".." ++ plainNames names).map .ofLocalName) =
      (n.climb? k).bind (·.descend? (plainNames names)) := by
    have hup : PathStep.ofLocalName ".." = .up := by decide
    have hdown : (plainNames names).map .ofLocalName = (plainNames names).map PathStep.down := by
      simp [plainNames, PathStep.ofLocalName_identifier]
    rw [List.map_append, List.map_replicate, hup, hdown, walk?_append, walk?_up]
    simp only [walk?_down]
  rw [← hwalk, resolve?, relativeText]
  cases hsegments : List.replicate k ".." ++ plainNames names with
  | nil =>
    have hdot : PathExpr.parse "." = .relative [.stay] := by decide +kernel
    rw [hdot]
    rfl
  | cons first rest =>
    have hplain : ∀ segment ∈ first :: rest, IsPlain segment ∧ segment ≠ "" :=
      fun _ h => isPlain_relativeSegments (hsegments ▸ h)
    exact congrArg n.follow? (PathExpr.parse_join (fun segment h => (hplain segment h).1)
      (hplain first List.mem_cons_self).2)

theorem dataPath_of_top {n r : Node s} (h : n.dataParent? = some r) (hr : r.parent? = none) :
    n.dataPath = ⟨["", n.name]⟩ := by
  simp [dataPath, dataAncestry_of_dataParent? h, dataAncestry_of_root (dataParent?_of_root hr)]

/-- The first module with a top-level node of some name is the module of the node, as there is no
other such node. -/
theorem firstWith?_of_top (hf : s.IsForest) (hdistinct : s.HasDistinctDataPaths) {n r : Node s}
    (hn : n.isData = true) (hp : n.dataParent? = some r) (hr : r.parent? = none) :
    s.firstWith? n.name = some r := by
  obtain ⟨p, hvp, hvisible⟩ := hdistinct.allVisible hf n r hn hp
  obtain rfl := Option.some.inj (hp.symm.trans hvp)
  refine Schema.firstWith?_of_unique ((mem_moduleNodes_iff hf).2 hr) (by simp [hvisible]) ?_
  intro r' hr' htop
  obtain ⟨x, hx⟩ := Option.isSome_iff_exists.1 htop
  have hroot := (mem_moduleNodes_iff hf).1 hr'
  have hxd := isData_of_dataChild? hx
  have hxp := dataParent?_of_dataChild? hf (isData_of_root hf.isRooted hroot) hx
  -- data paths leave the module out, so a namesake at the top of another one shares the path
  have hpath : x.dataPath = n.dataPath := by
    rw [dataPath_of_top hxp hroot, dataPath_of_top hp hr, name_of_dataChild? hx]
  obtain rfl := hdistinct x n (inDataTree_of_dataParent? hxd hxp) (inDataTree_of_dataParent? hn hp)
    hpath
  exact Option.some.inj (hxp.symm.trans hp)

/-- The names of nodes as identifiers, where all names are. -/
def identifiers (h : ∀ n : Node s, isIdentifier n.name = true) (l : List (Node s)) :
    List Identifier :=
  l.map fun n => ⟨n.name, h n⟩

theorem plainNames_identifiers (h : ∀ n : Node s, isIdentifier n.name = true) (l : List (Node s)) :
    plainNames (identifiers h l) = l.map name := by
  simp [plainNames, identifiers]

theorem resolve?_dataPath (hf : s.IsForest) (hdistinct : s.HasDistinctDataPaths)
    (hnames : ∀ n : Node s, isIdentifier n.name = true) (n : Node s) {t : Node s}
    (ht : t.InDataTree) : n.resolve? t.dataPath.render = some t := by
  obtain ⟨top, below, hancestry⟩ := ht.exists_top hf.isRooted
  have htop : top.dataParent? = some t.root :=
    dataParent?_of_dataAncestry (dataAncestry_of_split hancestry)
  have htopd := isData_of_mem_dataAncestry ht.1 (by simp [hancestry] : top ∈ t.dataAncestry)
  have hfirst := firstWith?_of_top hf hdistinct htopd htop (parent?_root t)
  have hdescend := (hdistinct.allVisible hf).descend?_eq ht.1 hancestry
  have hrender : t.dataPath.render = "/" ++ join '/' ((top :: below).map name) := by
    rw [dataPath, hancestry, dataAncestry_root, List.singleton_append, List.drop_one,
      List.tail_cons, List.map_cons, SchemaPath.render_boundary]
  have habsolute := n.resolve?_absolute ⟨top.name, hnames top⟩ (identifiers hnames below)
  have hplain : plainNames (⟨top.name, hnames top⟩ :: identifiers hnames below) =
      (top :: below).map name :=
    plainNames_identifiers hnames (top :: below)
  rw [hplain] at habsolute
  rw [hrender, habsolute, hfirst, Option.bind_some, hdescend]

/-- A relative expression for `t` at `n`, over a node that lies on the data paths of both. -/
theorem resolve?_over (hvisible : s.AllVisible) (hnames : ∀ n : Node s, isIdentifier n.name = true)
    {n t a : Node s} {k : Nat} (hk : n.climb? k = some a) (ht : t.isData = true)
    (ha : a ∈ t.dataAncestry) :
    n.resolve? (relativeText k ((t.dataAncestry.drop a.dataAncestry.length).map name)) =
      some t := by
  obtain ⟨rest, hrest⟩ := dataAncestry_prefix ha
  have hdrop : t.dataAncestry.drop a.dataAncestry.length = rest := by simp [← hrest]
  rw [hdrop, ← plainNames_identifiers hnames rest, resolve?_relativeText, hk, Option.bind_some,
    plainNames_identifiers]
  exact hvisible.descend?_eq ht hrest.symm

theorem root_mem_dataAncestry (hr : s.IsRooted) (n : Node s) : n.root ∈ n.dataAncestry :=
  List.mem_of_head? (head?_dataAncestry_eq_root hr n)

/-- Two modules, and in the first one leaves in different cases of a choice. -/
def farLeaves : Schema := (Draft.empty.run [
  .module "m",
  .add ⟨0⟩ (.container "c"),
  .add ⟨1⟩ (.choice "way"),
  .add ⟨2⟩ (.case "near"),
  .add ⟨3⟩ (.leaf "x" "string"),
  .add ⟨2⟩ (.case "far"),
  .add ⟨5⟩ (.container "d"),
  .add ⟨6⟩ (.leaf "y" "string"),
  .module "n",
  .add ⟨8⟩ (.container "e"),
  .add ⟨9⟩ (.leaf "x" "string")]).2.schema

theorem finished_farLeaves : farLeaves.Finished := Schema.finished_run (by decide +kernel)

/-- The nodes of `farLeaves` in order of its steps. -/
def farNode (i : Fin 11) : Node farLeaves :=
  (farLeaves.node? (.ofIndex i)).get (by revert i; decide +kernel)

theorem hasDistinctDataPaths_farLeaves : farLeaves.HasDistinctDataPaths := by
  have h : ∀ a ∈ farLeaves.nodes, ∀ b ∈ farLeaves.nodes, a.InDataTree → b.InDataTree →
      a.dataPath = b.dataPath → a = b := by
    decide +kernel
  exact fun a b => h a a.mem_nodes b b.mem_nodes

/-- Where data paths tell the nodes of the data tree apart, the data path of a node leads to it from
everywhere. Between nodes of one module there are also the relative expressions, up to any node that
lies on both data paths and down again. -/
theorem resolve?_complete (hs : s.Finished) (hsize : s.size ≤ UInt32.size)
    (hnames : ∀ n : Node s, isIdentifier n.name = true) (hdistinct : s.HasDistinctDataPaths) :
    (∀ n t : Node s, t.InDataTree → n.resolve? t.dataPath.render = some t) ∧
      ∀ n t : Node s, n.isData = true → t.isData = true → n.root = t.root →
        (∃ a ∈ n.dataAncestry, a ∈ t.dataAncestry) ∧
          ∀ a ∈ n.dataAncestry, a ∈ t.dataAncestry → ∃ k, n.climb? k = some a ∧
            n.resolve? (relativeText k ((t.dataAncestry.drop a.dataAncestry.length).map name)) =
              some t := by
  have hf := hs.isForest hsize
  refine ⟨fun n t ht => resolve?_dataPath hf hdistinct hnames n ht, fun n t _ ht hroot => ⟨?_, ?_⟩⟩
  · have hn := root_mem_dataAncestry hf.isRooted n
    exact ⟨n.root, hn, hroot ▸ root_mem_dataAncestry hf.isRooted t⟩
  · intro a han hat
    obtain ⟨k, hk⟩ := exists_climb?_of_mem_dataAncestry han
    exact ⟨k, hk, resolve?_over (hdistinct.allVisible hf) hnames hk ht hat⟩

theorem resolve?_complete_farLeaves :
    farLeaves.Finished ∧ farLeaves.HasDistinctDataPaths ∧
      (farNode 7).resolve? "/e/x" = some (farNode 10) ∧
      ∃ k, (farNode 7).climb? k = some (farNode 1) ∧
        (farNode 7).resolve? (relativeText k ["x"]) = some (farNode 4) := by
  have hnames : ∀ n ∈ farLeaves.nodes, isIdentifier n.name = true := by decide +kernel
  obtain ⟨habsolute, hrelative⟩ := resolve?_complete finished_farLeaves (by decide +kernel)
    (fun n => hnames n n.mem_nodes) hasDistinctDataPaths_farLeaves
  refine ⟨finished_farLeaves, hasDistinctDataPaths_farLeaves, ?_, ?_⟩
  · have hpath : (farNode 10).dataPath.render = "/e/x" := by decide +kernel
    rw [← hpath]
    exact habsolute (farNode 7) (farNode 10) (by decide +kernel)
  · have hbelow : ((farNode 4).dataAncestry.drop (farNode 1).dataAncestry.length).map name =
        ["x"] := by
      decide +kernel
    rw [← hbelow]
    exact (hrelative (farNode 7) (farNode 4) (by decide +kernel) (by decide +kernel)
      (by decide +kernel)).2 (farNode 1) (by decide +kernel) (by decide +kernel)

end Node

end YangBind
