import YangBind.Proofs.Schema.DataLineage
import YangBind.Proofs.Schema.WrittenPath
import YangBind.Schema.Draft

/-! Predicates and the node that a path expression denotes. Predicates without a slash are of no
account; one with a slash keeps the expression from denoting a node. -/

namespace YangBind

namespace PathStep

theorem ofLocalName_concat_bracket (start : String) :
    ofLocalName (start ++ "]") = .down (start ++ "]") := by
  have hlast : (start ++ "]").toList.getLast? = some ']' := by simp
  have hne : ∀ name : String, name.toList.getLast? ≠ some ']' → start ++ "]" ≠ name := by
    rintro name hname rfl
    exact hname hlast
  simp [ofLocalName, hne "" (by decide), hne "." (by decide), hne ".." (by decide)]

end PathStep

namespace Node

variable {s : Schema}

/-- Whatever is walked down to has the name it is asked for by. -/
theorem exists_name_of_walk? {n m : Node s} {steps : List PathStep} {name : String}
    (h : n.walk? steps = some m) (hname : .down name ∈ steps) : ∃ x : Node s, x.name = name := by
  induction steps generalizing n with
  | nil => cases hname
  | cons step rest ih =>
    rw [walk?, List.foldlM_cons] at h
    obtain ⟨next, hnext, hrest⟩ := Option.bind_eq_some_iff.1 h
    obtain rfl | hname := List.mem_cons.1 hname
    · exact ⟨next, name_of_dataChild? hnext⟩
    · exact ih hrest hname

theorem name_of_topLevel? {n : Node s} {name : String} (h : s.topLevel? name = some n) :
    n.name = name := by
  obtain ⟨r, -, hr⟩ := List.exists_of_findSome?_eq_some h
  exact name_of_dataChild? hr

theorem exists_name_of_follow? {n m : Node s} {isAbsolute : Bool} {names : List String}
    {name : String} (h : n.follow? (.ofNames isAbsolute names) = some m) (hname : name ∈ names)
    (hdown : .ofLocalName name = PathStep.down name) : ∃ x : Node s, x.name = name := by
  have hmem : ∀ {l : List String}, name ∈ l → .down name ∈ l.map PathStep.ofLocalName :=
    fun hl => List.mem_map.2 ⟨name, hl, hdown⟩
  cases isAbsolute with
  | false => exact exists_name_of_walk? h (hmem hname)
  | true =>
    cases names with
    | nil => cases hname
    | cons first rest =>
      obtain ⟨top, htop, hwalk⟩ := Option.bind_eq_some_iff.1 h
      obtain rfl | hname := List.mem_cons.1 hname
      · exact ⟨top, name_of_topLevel? htop⟩
      · exact exists_name_of_walk? hwalk (hmem hname)

/-- An expression denotes what it denotes without its predicates, unless one of them holds a slash.
Then it denotes nothing, since no name of a node ends with a bracket. -/
theorem resolve?_text (n : Node s) (p : WrittenPath) :
    (¬p.IsTorn → n.resolve? p.text = n.resolve? p.bare.text) ∧
      (p.IsTorn → (∀ x : Node s, x.name.toList.getLast? ≠ some ']') →
        n.resolve? p.text = none) := by
  rw [resolve?, resolve?, p.parse_text, p.bare.parse_text]
  constructor
  · intro hfree
    rw [p.names_bare hfree]
    rfl
  · rintro ⟨step, hstep, htorn⟩ hnames
    obtain ⟨start, hstart⟩ := WrittenStep.bracket_mem_names htorn
    rw [Option.eq_none_iff_forall_ne_some]
    intro m hm
    obtain ⟨x, hx⟩ := exists_name_of_follow? hm (List.mem_flatMap.2 ⟨step, hstep, hstart⟩)
      (PathStep.ofLocalName_concat_bracket start)
    exact hnames x (by simp [hx])

/-- A list with its key, a leaf that is no key, and a leaf beside the list that gives a key. -/
def keyedList : Schema := (Draft.empty.run [
  .module "m",
  .add ⟨0⟩ (.list "l" ["k"]),
  .add ⟨1⟩ (.leaf "k" "string"),
  .add ⟨1⟩ (.leaf "v" "string"),
  .add ⟨0⟩ (.leaf "r" "string")]).2.schema

theorem finished_keyedList : keyedList.Finished := Schema.finished_run (by decide +kernel)

/-- The nodes of `keyedList` in order of its steps. -/
def keyedNode (i : Fin 5) : Node keyedList :=
  (keyedList.node? (.ofIndex i)).get (by revert i; decide +kernel)

/-- The path from the leaf `r` to the leaf `v` of the entry with this predicate. -/
def pathToV (predicate : Predicate) : WrittenPath where
  isAbsolute := false
  first := ⟨.up, []⟩
  rest := [⟨.node none ⟨"l", by decide⟩, [predicate]⟩, ⟨.node none ⟨"v", by decide⟩, []⟩]

def byConstant : Predicate := ⟨"k='a:b'", by decide⟩

def byLeaf : Predicate := ⟨"k=current()/../r", by decide⟩

theorem resolve?_text_keyedList :
    ¬(pathToV byConstant).IsTorn ∧ (pathToV byLeaf).IsTorn ∧
      (keyedNode 4).resolve? (pathToV byConstant).text = some (keyedNode 3) ∧
      (keyedNode 4).resolve? (pathToV byLeaf).text = none := by
  have hfree : ¬(pathToV byConstant).IsTorn := by
    simp [pathToV, WrittenPath.IsTorn, WrittenPath.steps, WrittenStep.IsTorn, byConstant]
  have htorn : (pathToV byLeaf).IsTorn := by
    simp [pathToV, WrittenPath.IsTorn, WrittenPath.steps, WrittenStep.IsTorn, byLeaf]
  have hnames : ∀ x ∈ keyedList.nodes, x.name.toList.getLast? ≠ some ']' := by decide +kernel
  have hbare : (keyedNode 4).resolve? (pathToV byConstant).bare.text = some (keyedNode 3) := by
    decide +kernel
  exact ⟨hfree, htorn, ((resolve?_text _ _).1 hfree).trans hbare,
    (resolve?_text _ _).2 htorn fun x => hnames x x.mem_nodes⟩

theorem slash_in_predicate_denotes_nothing :
    keyedList.Finished ∧
      (pathToV byLeaf).text = "../l[k=current()/../r]/v" ∧
      (pathToV byLeaf).bare.text = "../l/v" ∧
      (keyedNode 4).resolve? (pathToV byLeaf).text = none ∧
      (keyedNode 4).resolve? (pathToV byLeaf).bare.text = some (keyedNode 3) :=
  ⟨finished_keyedList, by decide +kernel, by decide +kernel, by decide +kernel, by decide +kernel⟩

end Node

end YangBind
