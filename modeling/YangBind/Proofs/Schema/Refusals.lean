import YangBind.Proofs.Schema.Registration
import YangBind.Schema.Building

/-! Steps that are refused. In place, too, a step fails before it changes anything, so a run is the
same as one of the steps alone that were taken, and these have numbered their entries without a gap.
-/

namespace YangBind

open Schema (Step)

namespace Building

variable {d d' : Draft} {id : EntryId} {e : SchemaError} {step : Step}

/-- The end of a step in place, given what comes of it: a refusal leaves the draft as it is. -/
def endOf (d : Draft) :
    Except SchemaError (EntryId × Draft) → EStateM.Result SchemaError Draft EntryId
  | .ok (id, d') => .ok id d'
  | .error e => .error e d

theorem run_addModule (name : String) (d : Draft) :
    (addModule name).run d = endOf d (d.addModule name) := by
  simp only [addModule, Draft.addModule, EStateM.run_bind, EStateM.run_get]
  split <;> rfl

theorem run_add (parent : EntryId) (spec : EntrySpec) (d : Draft) :
    (add parent spec).run d = endOf d (d.add parent spec) := by
  simp only [add, Draft.add, EStateM.run_bind, EStateM.run_get]
  cases d.schema.entry? parent with
  | none => rfl
  | some above =>
    dsimp only
    split
    case isTrue => rfl
    case isFalse => split <;> rfl

theorem run_perform (step : Step) (d : Draft) : (perform step).run d = endOf d (d.step step) := by
  cases step with
  | module name => exact run_addModule name d
  | add parent spec => exact run_add parent spec d

theorem eq_of_run_perform_eq_error (h : (perform step).run d = .error e d') : d' = d := by
  rw [run_perform] at h
  cases hs : d.step step with
  | ok grown =>
    rw [hs] at h
    cases h
  | error e' =>
    rw [hs] at h
    cases h
    rfl

theorem performAll_eq_run (d : Draft) (steps : List Step) : performAll d steps = d.run steps := by
  induction steps generalizing d with
  | nil => rfl
  | cons step rest ih =>
    rw [performAll, run_perform]
    cases hs : d.step step with
    | ok grown =>
      obtain ⟨id, d'⟩ := grown
      rw [Draft.run_cons_ok rest hs, ← ih]
      rfl
    | error e =>
      rw [Draft.run_cons_error rest hs, ← ih]
      rfl

end Building

namespace Draft

variable {d d' : Draft} {id : EntryId} {step : Step}

/-- The steps of a list that were taken, given what came of them. -/
def taken (steps : List Step) (results : List (Except SchemaError EntryId)) : List Step :=
  ((steps.zip results).filter (·.2.isOk)).map Prod.fst

theorem run_taken (d : Draft) (steps : List Step) :
    d.run (taken steps (d.run steps).1) =
      ((d.run steps).1.filter Except.isOk, (d.run steps).2) := by
  induction steps generalizing d with
  | nil => rfl
  | cons step rest ih =>
    cases hs : d.step step with
    | ok grown =>
      obtain ⟨id, d'⟩ := grown
      have htaken : taken (step :: rest) (.ok id :: (d'.run rest).1) =
          step :: taken rest (d'.run rest).1 := rfl
      rw [run_cons_ok rest hs, htaken, run_cons_ok _ hs, ih]
      rfl
    | error e =>
      rw [run_cons_error rest hs]
      exact ih d

theorem id_step (h : d.step step = .ok (id, d')) : id = d.nextId := by
  cases step with
  | module name => exact (addModule_eq_ok h).2.1
  | add parent spec =>
    obtain ⟨above, -, -, -, hid, -⟩ := add_eq_ok h
    exact hid

/-- The entries of a run are numbered on from those that the draft has. -/
theorem ids_run (d : Draft) (steps : List Step) :
    ∃ n, (d.run steps).2.schema.size = d.schema.size + n ∧
      (d.run steps).1.filterMap Except.toOption = (List.range' d.schema.size n).map .ofIndex := by
  induction steps generalizing d with
  | nil => exact ⟨0, rfl, rfl⟩
  | cons step rest ih =>
    cases hs : d.step step with
    | error e =>
      rw [run_cons_error rest hs]
      exact ih d
    | ok grown =>
      obtain ⟨id, d'⟩ := grown
      obtain ⟨n, hsize, hids⟩ := ih d'
      rw [size_step hs] at hsize hids
      refine ⟨n + 1, ?_, ?_⟩
      · rw [run_cons_ok rest hs, hsize, Nat.add_right_comm, Nat.add_assoc]
      · rw [run_cons_ok rest hs, List.range'_succ, List.map_cons, ← hids, id_step hs]
        rfl

end Draft

namespace Building

/-- A run in place passes over the steps that fail: each of them leaves the draft exactly as it was,
the other steps alone lead to the same draft with the same identifiers, and these count from zero
without a gap. -/
theorem performAll_taken (steps : List Step) :
    let results := (performAll .empty steps).1
    let final := (performAll .empty steps).2
    (results, final) = Draft.empty.run steps ∧
    (∀ (d d' : Draft) step e, (perform step).run d = .error e d' → d' = d) ∧
    performAll .empty (Draft.taken steps results) = (results.filter Except.isOk, final) ∧
    (final.schema.size ≤ UInt32.size →
      (results.filterMap Except.toOption).map EntryId.index = List.range final.schema.size) := by
  intro results final
  have hrun : (results, final) = Draft.empty.run steps := performAll_eq_run .empty steps
  obtain ⟨hresults, hfinal⟩ := Prod.mk.inj hrun
  refine ⟨hrun, fun d d' step e => eq_of_run_perform_eq_error, ?_, fun hfits => ?_⟩
  · rw [performAll_eq_run, hresults, hfinal, Draft.run_taken]
  · obtain ⟨n, hsize, hids⟩ := Draft.ids_run .empty steps
    have hempty : Draft.empty.schema.size = 0 := rfl
    rw [← hfinal, hempty, Nat.zero_add] at hsize
    rw [hresults, hids, hempty, hsize, List.map_map, ← List.range_eq_range']
    refine (List.map_congr_left fun k hk => ?_).trans (List.map_id _)
    rw [List.mem_range] at hk
    exact EntryId.index_ofIndex (by omega)

theorem performAll_taken_refusals :
    let kept : List Step := [
      .module "m",
      .add ⟨0⟩ (.container "c"),
      .add ⟨1⟩ (.leaf "x" "string"),
      .module "n",
      .add ⟨0⟩ (.leaf "y" "string")]
    let outcome := performAll .empty Draft.stepsWithRefusals
    outcome.1.map Except.isOk = [true, true, false, false, true, false, false, true, true] ∧
      (performAll .empty kept).2 = outcome.2 ∧
      (outcome.1.filterMap Except.toOption).map EntryId.index = [0, 1, 2, 3, 4] := by
  intro kept outcome
  have hkept : Draft.taken Draft.stepsWithRefusals outcome.1 = kept := by decide +kernel
  have hsize : outcome.2.schema.size = 5 := by decide +kernel
  obtain ⟨-, -, htaken, hids⟩ := performAll_taken Draft.stepsWithRefusals
  refine ⟨by decide +kernel, ?_, ?_⟩
  · rw [← hkept, htaken]
  · have hfits : outcome.2.schema.size ≤ UInt32.size := by
      rw [hsize]
      decide
    rw [hids hfits, hsize]
    rfl

end Building

end YangBind
