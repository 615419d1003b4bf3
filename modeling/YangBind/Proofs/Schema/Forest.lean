import YangBind.Schema.Draft

/-! The links of a schema form a forest: its roots are the modules, and every other entry stands
among the children of its parent. Each step of construction keeps this as long as the places of the
entries fit their numbers, so it holds of all schemas that come out of one. -/

namespace YangBind

namespace Entry

variable (e : Entry) (c : EntryId)

@[simp] theorem name_addChild : (e.addChild c).name = e.name := rfl

@[simp] theorem kind_addChild : (e.addChild c).kind = e.kind := rfl

@[simp] theorem parent_addChild : (e.addChild c).parent = e.parent := rfl

@[simp] theorem children_addChild : (e.addChild c).children = e.children ++ [c] := rfl

end Entry

namespace Schema

/-- What the links, the names and the table of modules have to satisfy. -/
structure IsForest (s : Schema) : Prop where
  parent_lt : ∀ {i p e}, s.entry? i = some e → e.parent = some p → p.index < i.index
  mem_children_iff : ∀ {i c e}, s.entry? i = some e →
    (c ∈ e.children ↔ ∃ f, s.entry? c = some f ∧ f.parent = some i)
  children_ascending : ∀ {i e}, s.entry? i = some e → e.children.Pairwise (·.index < ·.index)
  children_eq_nil : ∀ {i e}, s.entry? i = some e → e.kind.isDirectory = false → e.children = []
  siblings_eq : ∀ {i j p a b}, s.entry? i = some a → s.entry? j = some b →
    a.parent = some p → b.parent = some p → a.name = b.name → i = j
  kind_of_root : ∀ {i e}, s.entry? i = some e → e.parent = none → e.kind = .module
  mem_modules_iff : ∀ {i}, i ∈ s.modules ↔ ∃ e, s.entry? i = some e ∧ e.parent = none
  modules_ascending : s.modules.Pairwise (·.index < ·.index)
  find?_moduleIndex : ∀ {name i}, s.moduleIndex.find? name = some i ↔
    ∃ e, s.entry? i = some e ∧ e.parent = none ∧ e.name = name

/-- `t` is `s` with the entry `new` at the last place: a module, or the last child of its parent. -/
structure Grown (s t : Schema) (id : EntryId) (new : Entry) : Prop where
  index_id : id.index = s.size
  entry?_eq : ∀ i, t.entry? i = if i = id then some new else
    (s.entry? i).map fun e => if new.parent = some i then e.addChild id else e
  children_new : new.children = []
  parent_exists : ∀ {p}, new.parent = some p →
    ∃ above, s.entry? p = some above ∧ above.kind.isDirectory = true ∧
      ∀ c ∈ above.children, ∀ e, s.entry? c = some e → e.name ≠ new.name
  root : new.parent = none → new.kind = .module ∧ s.moduleIndex.find? new.name = none
  modules : t.modules = if new.parent = none then s.modules ++ [id] else s.modules
  moduleIndex : t.moduleIndex =
    if new.parent = none then s.moduleIndex.insert new.name id else s.moduleIndex

/-- The schemas that construction ends with, whichever of its steps are refused. -/
def Finished (s : Schema) : Prop := ∃ steps, (Draft.empty.run steps).2.finish = .ok s

variable {s t : Schema} {id : EntryId} {new : Entry}

theorem entry?_lt_size {i : EntryId} {e : Entry} (h : s.entry? i = some e) : i.index < s.size :=
  (Array.getElem?_eq_some_iff.1 h).1

theorem isForest_empty : IsForest empty where
  parent_lt h := by simp [empty, Schema.entry?] at h
  mem_children_iff h := by simp [empty, Schema.entry?] at h
  children_ascending h := by simp [empty, Schema.entry?] at h
  children_eq_nil h := by simp [empty, Schema.entry?] at h
  siblings_eq h := by simp [empty, Schema.entry?] at h
  kind_of_root h := by simp [empty, Schema.entry?] at h
  mem_modules_iff := by simp [empty, Schema.entry?]
  modules_ascending := .nil
  find?_moduleIndex := by simp [empty, Schema.entry?]

namespace Grown

theorem index_lt (h : Grown s t id new) {i : EntryId} {e : Entry} (hi : s.entry? i = some e) :
    i.index < id.index :=
  h.index_id ▸ entry?_lt_size hi

theorem entry?_id (h : Grown s t id new) : s.entry? id = none := by
  cases he : s.entry? id with
  | none => rfl
  | some e => exact absurd (h.index_lt he) (Nat.lt_irrefl _)

/-- An entry afterwards is the new one, or one from before with at most one child more. -/
theorem entry?_cases (h : Grown s t id new) {i : EntryId} {e : Entry} (hi : t.entry? i = some e) :
    (i = id ∧ e = new) ∨ i ≠ id ∧ ∃ e₀, s.entry? i = some e₀ ∧
      e = if new.parent = some i then e₀.addChild id else e₀ := by
  rw [h.entry?_eq] at hi
  split at hi
  case isTrue heq => exact .inl ⟨heq, (Option.some.inj hi).symm⟩
  case isFalse hne =>
    obtain ⟨e₀, he₀, rfl⟩ := Option.map_eq_some_iff.1 hi
    exact .inr ⟨hne, e₀, he₀, rfl⟩

/-- Names, kinds and parents stay as they are. -/
theorem exists_entry?_iff (h : Grown s t id new) {i : EntryId}
    (P : String → EntryKind → Option EntryId → Prop) :
    (∃ e, t.entry? i = some e ∧ P e.name e.kind e.parent) ↔
      (i = id ∧ P new.name new.kind new.parent) ∨
        ∃ e, s.entry? i = some e ∧ P e.name e.kind e.parent := by
  rw [h.entry?_eq]
  by_cases hi : i = id
  · subst hi
    simp [h.entry?_id]
  · by_cases hp : new.parent = some i
    · simp only [hi, hp, if_true, if_false, false_and, false_or, Option.map_eq_some_iff]
      constructor
      · rintro ⟨-, ⟨e, he, rfl⟩, h⟩
        exact ⟨e, he, h⟩
      · rintro ⟨e, he, h⟩
        exact ⟨_, ⟨e, he, rfl⟩, h⟩
    · simp [hi, hp]

/-- No entry from before has the new one's name and parent. -/
theorem name_ne (h : Grown s t id new) (hf : s.IsForest) {i p : EntryId} {e : Entry}
    (hi : s.entry? i = some e) (he : e.parent = some p) (hp : new.parent = some p) :
    e.name ≠ new.name := by
  obtain ⟨above, habove, -, hne⟩ := h.parent_exists hp
  exact hne i ((hf.mem_children_iff habove).2 ⟨e, hi, he⟩) e hi

end Grown

theorem IsForest.grow (hf : s.IsForest) (h : Grown s t id new) : t.IsForest where
  parent_lt := by
    intro i p e hi hp
    obtain ⟨rfl, rfl⟩ | ⟨-, e₀, he₀, rfl⟩ := h.entry?_cases hi
    · obtain ⟨above, habove, -⟩ := h.parent_exists hp
      exact h.index_lt habove
    · apply hf.parent_lt he₀
      split at hp <;> exact hp
  mem_children_iff := by
    intro i c e hi
    rw [h.exists_entry?_iff fun _ _ p => p = some i]
    obtain ⟨rfl, rfl⟩ | ⟨hne, e₀, he₀, rfl⟩ := h.entry?_cases hi
    · simp only [h.children_new, List.not_mem_nil, false_iff]
      rintro (⟨-, hp⟩ | ⟨f, hc, hp⟩)
      · obtain ⟨above, habove, -⟩ := h.parent_exists hp
        exact absurd (h.index_lt habove) (Nat.lt_irrefl _)
      · exact absurd (hf.parent_lt hc hp) (Nat.lt_asymm (h.index_lt hc))
    · rw [← hf.mem_children_iff he₀]
      by_cases hp : new.parent = some i <;> simp [hp, or_comm]
  children_ascending := by
    intro i e hi
    obtain ⟨rfl, rfl⟩ | ⟨-, e₀, he₀, rfl⟩ := h.entry?_cases hi
    · simp [h.children_new]
    · split
      case isTrue =>
        refine List.pairwise_append.2
          ⟨hf.children_ascending he₀, List.pairwise_singleton .., fun a ha b hb => ?_⟩
        obtain rfl := List.mem_singleton.1 hb
        obtain ⟨f, hf', -⟩ := (hf.mem_children_iff he₀).1 ha
        exact h.index_lt hf'
      case isFalse => exact hf.children_ascending he₀
  children_eq_nil := by
    intro i e hi hk
    obtain ⟨rfl, rfl⟩ | ⟨-, e₀, he₀, rfl⟩ := h.entry?_cases hi
    · exact h.children_new
    · split at hk
      case isTrue hp =>
        obtain ⟨above, habove, hdir, -⟩ := h.parent_exists hp
        obtain rfl : e₀ = above := Option.some.inj (he₀.symm.trans habove)
        simp [hdir] at hk
      case isFalse hp => simpa [hp] using hf.children_eq_nil he₀ hk
  siblings_eq := by
    intro i j p a b hi hj ha hb hab
    have hi' := (h.exists_entry?_iff fun n _ q => q = some p ∧ n = a.name).1 ⟨a, hi, ha, rfl⟩
    have hj' := (h.exists_entry?_iff fun n _ q => q = some p ∧ n = a.name).1
      ⟨b, hj, hb, hab.symm⟩
    obtain ⟨rfl, hp, hn⟩ | ⟨e, he, hp, hn⟩ := hi' <;>
      obtain ⟨rfl, hq, hm⟩ | ⟨f, hf', hq, hm⟩ := hj'
    · rfl
    · exact absurd (hm.trans hn.symm) (h.name_ne hf hf' hq hp)
    · exact absurd (hn.trans hm.symm) (h.name_ne hf he hp hq)
    · exact hf.siblings_eq he hf' hp hq (hn.trans hm.symm)
  kind_of_root := by
    intro i e hi hp
    obtain ⟨rfl, rfl⟩ | ⟨-, e₀, he₀, rfl⟩ := h.entry?_cases hi
    · exact (h.root hp).1
    · split at hp
      case isTrue hn => simpa [hn] using hf.kind_of_root he₀ hp
      case isFalse hn => simpa [hn] using hf.kind_of_root he₀ hp
  mem_modules_iff := by
    intro i
    rw [h.exists_entry?_iff fun _ _ p => p = none, h.modules, ← hf.mem_modules_iff]
    by_cases hp : new.parent = none <;> simp [hp, or_comm]
  modules_ascending := by
    rw [h.modules]
    split
    case isTrue =>
      refine List.pairwise_append.2
        ⟨hf.modules_ascending, List.pairwise_singleton .., fun a ha b hb => ?_⟩
      obtain rfl := List.mem_singleton.1 hb
      obtain ⟨e, he, -⟩ := hf.mem_modules_iff.1 ha
      exact h.index_lt he
    case isFalse => exact hf.modules_ascending
  find?_moduleIndex := by
    intro name i
    rw [h.exists_entry?_iff fun n _ p => p = none ∧ n = name, h.moduleIndex,
      ← hf.find?_moduleIndex]
    by_cases hp : new.parent = none
    · simp only [hp, if_true, true_and, NameMap.find?_insert]
      by_cases hn : name = new.name
      · subst hn
        simp [(h.root hp).2, eq_comm]
      · simp [hn, Ne.symm hn]
    · simp [hp]

end Schema

namespace Draft

open Schema

variable {d d' : Draft} {id : EntryId}

theorem eq_nextId_iff (hs : d.schema.size < UInt32.size) {i : EntryId} :
    i = d.nextId ↔ i.index = d.schema.size := by
  rw [← EntryId.index_inj, nextId, EntryId.index_ofIndex hs]

/-- What a module step that is taken does. -/
theorem addModule_eq_ok {name : String} (h : d.addModule name = .ok (id, d')) :
    d.schema.moduleIndex.find? name = none ∧ id = d.nextId ∧
      d' = ⟨{
        entries := d.schema.entries.push (.ofModule name)
        modules := d.schema.modules ++ [id]
        moduleIndex := d.schema.moduleIndex.insert name id }⟩ := by
  simp only [addModule] at h
  split at h
  case isTrue => cases h
  case isFalse hfree =>
    cases h
    exact ⟨by simpa [NameMap.contains] using hfree, rfl, rfl⟩

/-- What an entry step that is taken does. -/
theorem add_eq_ok {parent : EntryId} {spec : EntrySpec}
    (h : d.add parent spec = .ok (id, d')) :
    ∃ above, d.schema.entry? parent = some above ∧ above.kind.isDirectory = true ∧
      (∀ c ∈ above.children, ∀ e, d.schema.entry? c = some e → e.name ≠ spec.name) ∧
      id = d.nextId ∧
      d' = ⟨{ d.schema with
        entries := (d.schema.entries.push (spec.toEntry parent above.module)).modify parent.index
          (·.addChild id) }⟩ := by
  simp only [add] at h
  split at h
  case h_1 => cases h
  case h_2 above habove =>
    split at h
    case isTrue => cases h
    case isFalse hdir =>
      split at h
      case isTrue => cases h
      case isFalse hfree =>
        cases h
        refine ⟨above, habove, by simpa using hdir, fun c hc e he heq => hfree ?_, rfl, rfl⟩
        exact List.any_eq_true.2 ⟨c, hc, by simp [he, heq]⟩

theorem grown_addModule {name : String} (hs : d.schema.size < UInt32.size)
    (h : d.addModule name = .ok (id, d')) : Grown d.schema d'.schema id (.ofModule name) := by
  obtain ⟨hfree, rfl, rfl⟩ := addModule_eq_ok h
  refine ⟨(eq_nextId_iff hs).1 rfl, fun i => ?_, rfl, ?_, fun _ => ⟨rfl, hfree⟩, rfl, rfl⟩
  · simp only [eq_nextId_iff hs, Entry.ofModule, reduceCtorEq, if_false, Option.map_id']
    exact Array.getElem?_push
  · simp [Entry.ofModule]

theorem grown_add {parent : EntryId} {spec : EntrySpec} (hs : d.schema.size < UInt32.size)
    (h : d.add parent spec = .ok (id, d')) :
    ∃ above, d.schema.entry? parent = some above ∧
      Grown d.schema d'.schema id (spec.toEntry parent above.module) := by
  obtain ⟨above, habove, hdir, hfree, rfl, rfl⟩ := add_eq_ok h
  refine ⟨above, habove, (eq_nextId_iff hs).1 rfl, fun i => ?_, rfl, ?_, nofun, rfl, rfl⟩
  · have hlt : parent.index < d.schema.entries.size := entry?_lt_size habove
    simp only [eq_nextId_iff hs, EntrySpec.toEntry, Option.some.injEq, ← EntryId.index_inj]
    unfold entry? Schema.size
    simp only [Array.getElem?_modify, Array.getElem?_push]
    by_cases hi : i.index = d.schema.entries.size
    · have hne : parent.index ≠ i.index := by omega
      rw [if_neg hne, if_pos hi, if_pos hi]
    · by_cases hp : parent.index = i.index <;> simp [hi, hp]
  · rintro p ⟨⟩
    exact ⟨above, habove, hdir, hfree⟩

theorem grown_step {step : Step} (hs : d.schema.size < UInt32.size)
    (h : d.step step = .ok (id, d')) : ∃ new, Grown d.schema d'.schema id new := by
  cases step with
  | module name => exact ⟨_, grown_addModule hs h⟩
  | add parent spec =>
    obtain ⟨above, -, hg⟩ := grown_add hs h
    exact ⟨_, hg⟩

theorem size_step {step : Step} (h : d.step step = .ok (id, d')) :
    d'.schema.size = d.schema.size + 1 := by
  cases step with
  | module name =>
    obtain ⟨-, -, rfl⟩ := addModule_eq_ok h
    simp [Schema.size]
  | add parent spec =>
    obtain ⟨above, -, -, -, -, rfl⟩ := add_eq_ok h
    simp [Schema.size]

theorem run_cons_ok {step : Step} (rest : List Step) (h : d.step step = .ok (id, d')) :
    d.run (step :: rest) = (.ok id :: (d'.run rest).1, (d'.run rest).2) := by
  simp [run, h]

theorem run_cons_error {step : Step} {e : SchemaError} (rest : List Step)
    (h : d.step step = .error e) :
    d.run (step :: rest) = (.error e :: (d.run rest).1, (d.run rest).2) := by
  simp [run, h]

/-- A run keeps what every step keeps that is taken. -/
theorem run_preserves {P : Draft → Prop}
    (hstep : ∀ {d d' : Draft} {id : EntryId} {step : Step}, P d → d.step step = .ok (id, d') → P d')
    (h : P d) (steps : List Step) : P (d.run steps).2 := by
  induction steps generalizing d with
  | nil => exact h
  | cons step rest ih =>
    cases hs : d.step step with
    | error e =>
      rw [run_cons_error rest hs]
      exact ih h
    | ok grown =>
      obtain ⟨id, d'⟩ := grown
      rw [run_cons_ok rest hs]
      exact ih (hstep h hs)

theorem isForest_step {step : Step} (h : d.step step = .ok (id, d'))
    (hf : d.schema.size ≤ UInt32.size → d.schema.IsForest)
    (hs : d'.schema.size ≤ UInt32.size) : d'.schema.IsForest := by
  have hsize := size_step h
  obtain ⟨new, hg⟩ := grown_step (by omega) h
  exact (hf (by omega)).grow hg

theorem isForest_run (steps : List Step) (hf : d.schema.IsForest)
    (hs : (d.run steps).2.schema.size ≤ UInt32.size) : (d.run steps).2.schema.IsForest :=
  run_preserves (P := fun d => d.schema.size ≤ UInt32.size → d.schema.IsForest)
    (fun hf h => isForest_step h hf) (fun _ => hf) steps hs

theorem finish_eq_ok_iff {s : Schema} :
    d.finish = .ok s ↔ d.schema = s ∧ d.schema.firstFault? = none := by
  unfold finish
  split <;> simp [*]

end Draft

theorem Schema.finished_run {steps : List Schema.Step}
    (h : (Draft.empty.run steps).2.schema.firstFault? = none) :
    (Draft.empty.run steps).2.schema.Finished :=
  ⟨steps, Draft.finish_eq_ok_iff.2 ⟨rfl, h⟩⟩

theorem Schema.Finished.isForest {s : Schema} (h : s.Finished) (hs : s.size ≤ UInt32.size) :
    s.IsForest := by
  obtain ⟨steps, h⟩ := h
  obtain ⟨rfl, -⟩ := Draft.finish_eq_ok_iff.1 h
  exact Draft.isForest_run steps isForest_empty hs

end YangBind
