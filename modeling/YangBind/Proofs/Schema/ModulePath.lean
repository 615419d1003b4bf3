import YangBind.Proofs.Schema.JoinedPath
import YangBind.Proofs.Schema.PathLookup

/-! Paths below a module. A look-up drops the empty segments of a path and goes down by the others;
the path as an expression at the module stays at an empty segment and goes down by each other one.
On paths of identifiers the two are the same walk, whether it arrives or not. -/

namespace YangBind

open Text

namespace Node

variable {s : Schema}

/-- A walk by segments goes down by those that are not empty. -/
theorem walk?_ofLocalName (n : Node s) {segments : List String}
    (h : ∀ segment ∈ segments, segment = "" ∨ isIdentifier segment = true) :
    n.walk? (segments.map .ofLocalName) =
      n.descend? (segments.filter fun segment => segment ≠ "") := by
  induction segments generalizing n with
  | nil => rfl
  | cons segment rest ih =>
    have hrest : ∀ m : Node s, m.walk? (rest.map .ofLocalName) =
        m.descend? (rest.filter fun segment => segment ≠ "") :=
      fun m => ih m fun other hother => h other (List.mem_cons_of_mem segment hother)
    rw [List.map_cons, walk?, List.foldlM_cons]
    obtain rfl | hid := h segment List.mem_cons_self
    · rw [List.filter_cons_of_neg (by simp), ← hrest n]
      rfl
    · have hne : segment ≠ "" := by
        rintro rfl
        cases hid
      rw [List.filter_cons_of_pos (by simpa using hne), descend?,
        PathStep.ofLocalName_identifier ⟨segment, hid⟩]
      exact congrArg (Option.bind (n.dataChild? segment)) (funext hrest)

theorem resolve?_eq_descend? (n : Node s) {path : String} (hpath : path.toList.head? ≠ some '/')
    (hsegments : ∀ segment ∈ split '/' path, segment = "" ∨ isIdentifier segment = true) :
    n.resolve? path = n.descend? ((split '/' path).filter fun segment => segment ≠ "") := by
  have hplain : ∀ segment ∈ split '/' path, IsPlain segment := by
    intro segment hsegment
    obtain rfl | hid := hsegments segment hsegment
    · decide
    · exact Identifier.isPlain_text ⟨segment, hid⟩
  have htrim : trim path = path := by
    have htrimmed := IsPlain.isTrimmed_join hplain
    rw [join_split] at htrimmed
    exact htrimmed.trim_eq
  have hnames : namesIn path.toList = split '/' path := by
    have hjoin := IsPlain.namesIn_join hplain (split_ne_nil '/' path)
    rwa [join_split] at hjoin
  rw [resolve?, PathExpr.parse_of_relative (by rwa [htrim]), hnames]
  exact walk?_ofLocalName n hsegments

end Node

namespace Schema

variable {s : Schema}

/-- A path of identifiers and empty segments that does not begin with a slash leads to the same node
when it is looked up below a module and when it is resolved at the module, or to none in both cases.
The modules may be taken by the names they are looked up by, or from the list of roots. -/
theorem find?_eq_resolve? {path : String} (hpath : path.toList.head? ≠ some '/')
    (hsegments : ∀ segment ∈ split '/' path, segment = "" ∨ isIdentifier segment = true) :
    (∀ moduleName, s.find? moduleName path = (s.module? moduleName).bind (·.resolve? path)) ∧
      (s.Finished → s.size ≤ UInt32.size →
        ∀ r ∈ s.moduleNodes, s.find? r.name path = r.resolve? path) := by
  have hfind : ∀ moduleName,
      s.find? moduleName path = (s.module? moduleName).bind (·.resolve? path) := by
    intro moduleName
    simp only [Node.resolve?_eq_descend? _ hpath hsegments]
    rfl
  refine ⟨hfind, fun hs hsize r hr => ?_⟩
  have hf := hs.isForest hsize
  have hmodule : s.module? r.name = some r :=
    (module?_eq_some_iff hf).2 ⟨(Node.mem_moduleNodes_iff hf).1 hr, rfl⟩
  rw [hfind, hmodule, Option.bind_some]

/-- Down through a choice by a path with empty segments, and not down by the name of the choice. -/
theorem find?_eq_resolve?_farLeaves :
    (∀ path ∈ ["c//d/y/", "c/way"], path.toList.head? ≠ some '/' ∧
      ∀ segment ∈ split '/' path, segment = "" ∨ isIdentifier segment = true) ∧
      Node.farLeaves.find? "m" "c//d/y/" = some (Node.farNode 7) ∧
      (Node.farNode 0).resolve? "c//d/y/" = some (Node.farNode 7) ∧
      Node.farLeaves.find? "m" "c/way" = none ∧ (Node.farNode 0).resolve? "c/way" = none := by
  have hpaths : ∀ path ∈ ["c//d/y/", "c/way"], path.toList.head? ≠ some '/' ∧
      ∀ segment ∈ split '/' path, segment = "" ∨ isIdentifier segment = true := by
    decide +kernel
  obtain ⟨hhead, hsegments⟩ := hpaths "c//d/y/" (by simp)
  obtain ⟨hheadWay, hsegmentsWay⟩ := hpaths "c/way" (by simp)
  have hfound : Node.farLeaves.find? "m" "c//d/y/" = some (Node.farNode 7) := by decide +kernel
  have hmissed : Node.farLeaves.find? "m" "c/way" = none := by decide +kernel
  have hmodule : Node.farLeaves.module? "m" = some (Node.farNode 0) := by decide +kernel
  have hroot : Node.farNode 0 ∈ Node.farLeaves.moduleNodes ∧ (Node.farNode 0).name = "m" := by
    decide +kernel
  refine ⟨hpaths, hfound, ?_, hmissed, ?_⟩
  · rw [← (find?_eq_resolve? hhead hsegments).2 Node.finished_farLeaves (by decide +kernel)
      (Node.farNode 0) hroot.1, hroot.2, hfound]
  · have hway : Node.farLeaves.find? "m" "c/way" =
        (Node.farLeaves.module? "m").bind (·.resolve? "c/way") :=
      (find?_eq_resolve? hheadWay hsegmentsWay).1 "m"
    rw [hmissed, hmodule] at hway
    exact hway.symm

end Schema

end YangBind
