import Mathlib.Data.List.Nodup
import YangBind.Proofs.Schema.Forest

/-! What a run of steps leaves behind, whichever of the steps are refused: a forest whose roots are
the modules that the run registered, in the order of their registration. -/

namespace YangBind

namespace Schema

variable {s : Schema}

theorem IsForest.exists_parent (hf : s.IsForest) {i p : EntryId} {e : Entry}
    (hi : s.entry? i = some e) (hp : e.parent = some p) : ∃ above, s.entry? p = some above := by
  have hlt : p.index < s.entries.size := Nat.lt_trans (hf.parent_lt hi hp) (entry?_lt_size hi)
  exact ⟨s.entries[p.index], Array.getElem?_eq_getElem hlt⟩

theorem nodup_of_ascending {ids : List EntryId} (h : ids.Pairwise (·.index < ·.index)) :
    ids.Nodup := by
  apply h.imp
  rintro i j hlt rfl
  exact Nat.lt_irrefl _ hlt

/-- An entry stands once among the children of its parent and nowhere else. -/
theorem IsForest.count_children (hf : s.IsForest) {i j : EntryId} {e other : Entry}
    (hi : s.entry? i = some e) (hj : s.entry? j = some other) :
    other.children.count i = if e.parent = some j then 1 else 0 := by
  have hmem : i ∈ other.children ↔ e.parent = some j := by
    rw [hf.mem_children_iff hj]
    simp [hi]
  rw [(nodup_of_ascending (hf.children_ascending hj)).count]
  simp only [hmem]

end Schema

namespace Draft

open Schema (Step)

variable {d d' : Draft} {id : EntryId} {step : Step}

/-- The module that a step registered, given what came of the step. -/
def registration? : Step × Except SchemaError EntryId → Option (String × EntryId)
  | (.module name, .ok id) => some (name, id)
  | _ => none

/-- The modules that a list of steps registered, in order. -/
def registered (steps : List Step) (results : List (Except SchemaError EntryId)) :
    List (String × EntryId) :=
  (steps.zip results).filterMap registration?

/-- A step that is taken registers its module, if it has one, under a name that was free. -/
theorem modules_step (h : d.step step = .ok (id, d')) :
    d'.schema.modules =
        d.schema.modules ++ ((registration? (step, .ok id)).toList.map Prod.snd) ∧
      ∀ name i, d'.schema.moduleIndex.find? name = some i ↔
        d.schema.moduleIndex.find? name = some i ∨
          registration? (step, .ok id) = some (name, i) := by
  cases step with
  | module new =>
    obtain ⟨hfree, -, rfl⟩ := addModule_eq_ok h
    refine ⟨rfl, fun name i => ?_⟩
    simp only [NameMap.find?_insert, registration?, Option.some.injEq, Prod.mk.injEq]
    by_cases hname : name = new
    · subst hname
      simp [hfree]
    · simp [hname, Ne.symm hname]
  | add parent spec =>
    obtain ⟨above, -, -, -, -, rfl⟩ := add_eq_ok h
    simp [registration?]

theorem modules_run (d : Draft) (steps : List Step) :
    (d.run steps).2.schema.modules =
        d.schema.modules ++ (registered steps (d.run steps).1).map Prod.snd ∧
      ∀ name i, (d.run steps).2.schema.moduleIndex.find? name = some i ↔
        d.schema.moduleIndex.find? name = some i ∨
          (name, i) ∈ registered steps (d.run steps).1 := by
  induction steps generalizing d with
  | nil => simp [run, registered]
  | cons step rest ih =>
    cases h : d.step step with
    | error e =>
      have hnone : registration? (step, .error e) = none := by cases step <;> rfl
      rw [run_cons_error rest h]
      simpa [registered, hnone] using ih d
    | ok grown =>
      obtain ⟨id, d'⟩ := grown
      obtain ⟨hmodules, hindex⟩ := modules_step h
      obtain ⟨hmodules', hindex'⟩ := ih d'
      rw [run_cons_ok rest h]
      constructor
      · cases hreg : registration? (step, .ok id) <;>
          simp [registered, hreg, hmodules', hmodules]
      · intro name i
        rw [hindex', hindex]
        cases hreg : registration? (step, .ok id) <;>
          simp [registered, hreg, or_assoc, eq_comm]

/-- Steps of which some are refused: a module and a child that exist, an unknown parent and one that
holds no children. -/
def stepsWithRefusals : List Step := [
  .module "m",
  .add ⟨0⟩ (.container "c"),
  .module "m",
  .add ⟨9⟩ (.leaf "x" "string"),
  .add ⟨1⟩ (.leaf "x" "string"),
  .add ⟨1⟩ (.choice "x"),
  .add ⟨2⟩ (.leaf "y" "string"),
  .module "n",
  .add ⟨0⟩ (.leaf "y" "string")]

/-- Every run leaves a forest, in which an entry stands once among the children of its parent and
nowhere else, and whose roots are the modules that the run registered, by order and by name. -/
theorem forest_of_run (steps : List Step)
    (hs : (Draft.empty.run steps).2.schema.size ≤ UInt32.size) :
    let s := (Draft.empty.run steps).2.schema
    let modules := registered steps (Draft.empty.run steps).1
    s.IsForest ∧
      (∀ i e p, s.entry? i = some e → e.parent = some p → ∃ above, s.entry? p = some above) ∧
      (∀ i j e other, s.entry? i = some e → s.entry? j = some other →
        other.children.count i = if e.parent = some j then 1 else 0) ∧
      s.modules = modules.map Prod.snd ∧ (modules.map Prod.fst).Nodup ∧
      ∀ name i, s.moduleIndex.find? name = some i ↔ (name, i) ∈ modules := by
  intro s modules
  have hf : s.IsForest := isForest_run steps Schema.isForest_empty hs
  obtain ⟨hmodules, hindex⟩ := modules_run Draft.empty steps
  have hids : s.modules = modules.map Prod.snd := hmodules
  have hnames : ∀ name i, s.moduleIndex.find? name = some i ↔ (name, i) ∈ modules := by
    intro name i
    exact (hindex name i).trans (or_iff_right nofun)
  have hnodup : modules.Nodup := by
    apply List.Nodup.of_map Prod.snd
    rw [← hids]
    exact Schema.nodup_of_ascending hf.modules_ascending
  refine ⟨hf, fun i e p => hf.exists_parent, fun i j e other => hf.count_children, hids, ?_, hnames⟩
  -- a name of two registrations would be found at two places
  refine List.Nodup.map_on ?_ hnodup
  rintro ⟨name, i⟩ hi ⟨-, j⟩ hj rfl
  have hsame := ((hnames name i).2 hi).symm.trans ((hnames name j).2 hj)
  rw [Option.some.inj hsame]

theorem forest_of_run_refusals :
    let s := (Draft.empty.run stepsWithRefusals).2.schema
    s.size = 5 ∧ s.IsForest ∧ s.modules = [⟨0⟩, ⟨3⟩] ∧
      ∀ name i, s.moduleIndex.find? name = some i ↔ (name, i) ∈ [("m", ⟨0⟩), ("n", ⟨3⟩)] := by
  have hsize : (Draft.empty.run stepsWithRefusals).2.schema.size = 5 := by decide +kernel
  have hregistered : registered stepsWithRefusals (Draft.empty.run stepsWithRefusals).1 =
      [("m", ⟨0⟩), ("n", ⟨3⟩)] := by
    decide +kernel
  obtain ⟨hf, -, -, hmodules, -, hindex⟩ := forest_of_run stepsWithRefusals (by
    rw [hsize]
    decide)
  rw [hregistered] at hmodules hindex
  exact ⟨hsize, hf, hmodules, hindex⟩

end Draft

end YangBind
