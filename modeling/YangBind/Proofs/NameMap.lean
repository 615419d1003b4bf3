import YangBind.NameMap

/-! Maps by their keys: which keys a map has after pairs were put in or sifted out, and what stands
before a key. Since keys stand in ascending order, two maps that have the same keys list them alike,
and so does a sorted list of what a map has. -/

namespace YangBind.NameMap

universe u v

variable {α : Type u} {β : Type v}

theorem lookup_eq_some_iff_mem {l : List (String × α)} (h : (l.map Prod.fst).Nodup)
    {k : String} {x : α} : l.lookup k = some x ↔ (k, x) ∈ l := by
  induction l with
  | nil => simp
  | cons d rest ih =>
    obtain ⟨j, y⟩ := d
    obtain ⟨hj, hrest⟩ := List.nodup_cons.1 h
    rw [lookup_cons, List.mem_cons, Prod.mk.injEq]
    by_cases hkey : k = j
    · subst hkey
      have hno : (k, x) ∉ rest := fun hmem => hj (List.mem_map.2 ⟨_, hmem, rfl⟩)
      simp [hno, eq_comm]
    · simp [hkey, ih hrest]

theorem eq_of_mem_entries {m : NameMap α} {a b : String × α} (ha : a ∈ m.entries)
    (hb : b ∈ m.entries) (h : a.1 = b.1) : a = b := by
  have ha' := find?_eq_some_iff.2 ha
  rw [h, find?_eq_some_iff.2 hb] at ha'
  exact Prod.ext h (Option.some.inj ha').symm

theorem keys_eq_of_mem_iff {m : NameMap α} {n : NameMap β} (h : ∀ k, k ∈ m.keys ↔ k ∈ n.keys) :
    m.keys = n.keys := by
  -- without their values the two are one map
  have hunit : (m.map fun _ _ => ()) = n.map fun _ _ => () := by
    refine ext fun k => ?_
    have hk := h k
    rw [mem_keys_iff, mem_keys_iff] at hk
    rw [find?_map, find?_map]
    cases hm : m.find? k <;> cases hn : n.find? k <;> simp [hm, hn] at hk ⊢
  rw [← keys_map (fun _ _ => ()) m, hunit, keys_map]

theorem find?_filter (p : String → α → Bool) (m : NameMap α) (k : String) :
    (m.filter p).find? k = (m.find? k).filter (p k) := by
  ext x
  simp [find?_eq_some_iff, filter, Option.filter_eq_some_iff]

theorem nodup_keys (m : NameMap α) : m.keys.Nodup :=
  m.keys_pairwise.imp fun hlt => String.ne_of_lt hlt

theorem length_keys (m : NameMap α) : m.keys.length = m.size := List.length_map _

/-- The entries of the keys smaller than `k`. -/
def before (m : NameMap α) (k : String) : NameMap α := m.filter fun j _ => j < k

theorem find?_before_eq_some_iff {m : NameMap α} {k j : String} {x : α} :
    (m.before k).find? j = some x ↔ j < k ∧ m.find? j = some x := by
  rw [before, find?_filter, Option.filter_eq_some_iff]
  simp [and_comm]

theorem entries_before {m : NameMap α} {k : String} {x : α} {front back : List (String × α)}
    (h : m.entries = front ++ (k, x) :: back) : (m.before k).entries = front := by
  have hasc := m.ascending
  rw [h, List.pairwise_append, List.pairwise_cons] at hasc
  obtain ⟨-, ⟨hback, -⟩, hfront⟩ := hasc
  have hkeep : front.filter (fun e => e.1 < k) = front :=
    List.filter_eq_self.2 fun e he => decide_eq_true (hfront e he _ List.mem_cons_self)
  have hdrop : ((k, x) :: back).filter (fun e => e.1 < k) = [] := by
    refine List.filter_eq_nil_iff.2 fun e he hlt => ?_
    obtain rfl | he := List.mem_cons.1 he
    · exact String.lt_irrefl k (of_decide_eq_true hlt)
    · exact String.lt_irrefl k (String.lt_trans (hback e he) (of_decide_eq_true hlt))
  change (m.entries.filter fun e => e.1 < k) = front
  rw [h, List.filter_append, hkeep, hdrop, List.append_nil]

theorem entries_eq_of_find? {m : NameMap α} {k : String} {x : α} (h : m.find? k = some x) :
    ∃ back, m.entries = (m.before k).entries ++ (k, x) :: back := by
  obtain ⟨front, back, hentries⟩ := List.append_of_mem (find?_eq_some_iff.1 h)
  exact ⟨back, by rw [entries_before hentries, hentries]⟩

theorem before_eq_of_entries {m n : NameMap α} {k : String} {x : α} {back : List (String × α)}
    (h : m.entries = n.entries ++ (k, x) :: back) : m.before k = n := by
  have hentries := entries_before h
  cases n
  simp only [before, filter] at hentries ⊢
  simp only [hentries]

theorem before_congr {m n : NameMap α} {k : String} (h : ∀ j < k, m.find? j = n.find? j) :
    m.before k = n.before k := by
  apply ext
  intro j
  apply Option.ext
  intro x
  rw [find?_before_eq_some_iff, find?_before_eq_some_iff]
  exact and_congr_right fun hlt => by rw [h j hlt]

theorem size_before_map (f : String → α → β) (m : NameMap α) (k : String) :
    ((m.map f).before k).size = (m.before k).size := by
  simp [before, filter, map, size, List.filter_map, Function.comp_def]

theorem pairwise_mergeSort_by (name : α → String) (l : List α) :
    (l.mergeSort fun a b => name a ≤ name b).Pairwise fun a b => name a ≤ name b := by
  have hsorted : (l.mergeSort fun a b => name a ≤ name b).Pairwise
      fun a b => decide (name a ≤ name b) = true := by
    apply List.pairwise_mergeSort
    · intro a b c hab hbc
      exact decide_eq_true (String.le_trans (of_decide_eq_true hab) (of_decide_eq_true hbc))
    · intro a b
      simpa using String.le_total (name a) (name b)
  exact hsorted.imp of_decide_eq_true

/-- Pairs that are the entries in any order come to be in theirs when they are sorted by key. -/
theorem mergeSort_eq_entries {m : NameMap α} {l : List (String × α)} (h : l.Perm m.entries) :
    (l.mergeSort fun a b => a.1 ≤ b.1) = m.entries := by
  have hperm := (List.mergeSort_perm l fun a b => a.1 ≤ b.1).trans h
  have hsorted := pairwise_mergeSort_by Prod.fst l
  have hascending := m.ascending.imp fun hlt => String.not_lt.1 (String.lt_asymm hlt)
  refine hperm.eq_of_pairwise (fun a b ha hb hab hba => ?_) hsorted hascending
  exact eq_of_mem_entries (hperm.mem_iff.1 ha) hb (String.le_antisymm hab hba)

theorem mem_keys_insert {m : NameMap α} {k j : String} {x : α} :
    j ∈ (m.insert k x).keys ↔ j = k ∨ j ∈ m.keys := by
  rw [mem_keys_iff, mem_keys_iff]
  by_cases h : j = k <;> simp [h]

theorem mem_keys_ofList {l : List (String × α)} {k : String} :
    k ∈ (ofList l).keys ↔ ∃ x, (k, x) ∈ l := by
  suffices hfold : ∀ m : NameMap α, k ∈ (l.foldl (fun m e => m.insert e.1 e.2) m).keys ↔
      (∃ x, (k, x) ∈ l) ∨ k ∈ m.keys by
    exact (hfold empty).trans (or_iff_left List.not_mem_nil)
  induction l with
  | nil => simp
  | cons e rest ih =>
    intro m
    rw [List.foldl_cons, ih, mem_keys_insert]
    constructor
    · rintro (⟨x, hx⟩ | rfl | hm)
      · exact .inl ⟨x, List.mem_cons_of_mem e hx⟩
      · exact .inl ⟨e.2, List.mem_cons_self⟩
      · exact .inr hm
    · rintro (⟨x, hx⟩ | hm)
      · obtain rfl | hx := List.mem_cons.1 hx
        · exact .inr (.inl rfl)
        · exact .inl ⟨x, hx⟩
      · exact .inr (.inr hm)

theorem mem_of_find?_ofList {l : List (String × α)} {k : String} {x : α}
    (h : (ofList l).find? k = some x) : (k, x) ∈ l := by
  suffices hfold : ∀ m : NameMap α, (l.foldl (fun m e => m.insert e.1 e.2) m).find? k = some x →
      (k, x) ∈ l ∨ m.find? k = some x by
    simpa using hfold empty h
  clear h
  induction l with
  | nil => exact fun m h => .inr h
  | cons e rest ih =>
    intro m h
    obtain h | h := ih _ h
    · exact .inl (List.mem_cons_of_mem _ h)
    · rw [find?_insert] at h
      split at h
      case isTrue hk =>
        obtain rfl := Option.some.inj h
        exact .inl (hk ▸ List.mem_cons_self)
      case isFalse => exact .inr h

/-- A list of entries of a map in which all its keys occur makes the map again. -/
theorem ofList_eq_of_mem {m : NameMap α} {l : List (String × α)}
    (hkeys : ∀ k ∈ m.keys, k ∈ l.map Prod.fst) (hmem : ∀ e ∈ l, e ∈ m.entries) : ofList l = m := by
  apply ext
  intro k
  cases hk : m.find? k with
  | some x =>
    have hentry := find?_eq_some_iff.1 hk
    obtain ⟨e, he, hek⟩ := List.mem_map.1 (hkeys k (mem_keys_iff.2 ⟨x, hk⟩))
    obtain rfl : e = (k, x) := eq_of_mem_entries (hmem e he) hentry hek
    refine find?_ofList_of_mem he fun y hy => ?_
    exact congrArg Prod.snd (eq_of_mem_entries (hmem _ hy) hentry rfl)
  | none =>
    cases hfound : (ofList l).find? k with
    | none => rfl
    | some x =>
      rw [find?_eq_some_iff.2 (hmem _ (mem_of_find?_ofList hfound))] at hk
      cases hk

end YangBind.NameMap
