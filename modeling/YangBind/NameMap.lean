/-! Finite maps keyed by names. The entries stand in strictly ascending order of their keys, so a
map is determined by what its keys are mapped to, and every walk over it visits the keys in that
order. -/

namespace YangBind

universe u v

structure NameMap (α : Type u) where
  entries : List (String × α)
  ascending : entries.Pairwise fun a b => a.1 < b.1
  deriving DecidableEq

namespace NameMap

variable {α : Type u} {β : Type v}

def empty : NameMap α := ⟨[], .nil⟩

instance : Inhabited (NameMap α) := ⟨empty⟩

def keys (m : NameMap α) : List String := m.entries.map Prod.fst

def values (m : NameMap α) : List α := m.entries.map Prod.snd

def size (m : NameMap α) : Nat := m.entries.length

def find? (m : NameMap α) (k : String) : Option α := m.entries.lookup k

def contains (m : NameMap α) (k : String) : Bool := (m.find? k).isSome

/-- The list with `k` mapped to `x`, in its place by order and instead of an earlier entry of `k`.
-/
def insertEntry (k : String) (x : α) : List (String × α) → List (String × α)
  | [] => [(k, x)]
  | e :: rest =>
    if k < e.1 then (k, x) :: e :: rest
    else if k = e.1 then (k, x) :: rest
    else e :: insertEntry k x rest

theorem mem_insertEntry {k : String} {x : α} {l : List (String × α)} {e : String × α}
    (h : e ∈ insertEntry k x l) : e = (k, x) ∨ e ∈ l := by
  induction l with
  | nil => simpa [insertEntry] using h
  | cons d rest ih =>
    unfold insertEntry at h
    split at h
    · simpa using h
    · split at h
      · rcases List.mem_cons.1 h with h | h
        · exact .inl h
        · exact .inr (List.mem_cons_of_mem _ h)
      · rcases List.mem_cons.1 h with h | h
        · exact .inr (h ▸ List.mem_cons_self)
        · exact (ih h).imp_right (List.mem_cons_of_mem _)

theorem lt_of_not_lt_of_ne {a b : String} (h : ¬a < b) (hne : a ≠ b) : b < a := by
  rcases Classical.em (b < a) with h' | h'
  · exact h'
  · exact absurd (String.le_antisymm (String.not_lt.1 h') (String.not_lt.1 h)) hne

theorem pairwise_insertEntry (k : String) (x : α) {l : List (String × α)}
    (h : l.Pairwise fun a b => a.1 < b.1) :
    (insertEntry k x l).Pairwise fun a b => a.1 < b.1 := by
  induction l with
  | nil => simp [insertEntry]
  | cons d rest ih =>
    obtain ⟨hd, hr⟩ := List.pairwise_cons.1 h
    unfold insertEntry
    split
    case isTrue hlt =>
      refine List.pairwise_cons.2 ⟨fun e he => ?_, h⟩
      rcases List.mem_cons.1 he with rfl | he
      · exact hlt
      · exact String.lt_trans hlt (hd e he)
    case isFalse hlt =>
      split
      case isTrue heq => exact List.pairwise_cons.2 ⟨fun e he => heq ▸ hd e he, hr⟩
      case isFalse hne =>
        refine List.pairwise_cons.2 ⟨fun e he => ?_, ih hr⟩
        rcases mem_insertEntry he with rfl | he
        · exact lt_of_not_lt_of_ne hlt hne
        · exact hd e he

def insert (m : NameMap α) (k : String) (x : α) : NameMap α :=
  ⟨insertEntry k x m.entries, pairwise_insertEntry k x m.ascending⟩

/-- The map of the pairs of a list; the last pair of a key counts. -/
def ofList (l : List (String × α)) : NameMap α :=
  l.foldl (fun m e => m.insert e.1 e.2) empty

/-- The map on the same keys with every value replaced. -/
def map (f : String → α → β) (m : NameMap α) : NameMap β where
  entries := m.entries.map fun e => (e.1, f e.1 e.2)
  ascending := List.pairwise_map.2 m.ascending

def filter (p : String → α → Bool) (m : NameMap α) : NameMap α where
  entries := m.entries.filter fun e => p e.1 e.2
  ascending := m.ascending.filter _

theorem lookup_cons (j k : String) (x : α) (l : List (String × α)) :
    List.lookup j ((k, x) :: l) = if j = k then some x else l.lookup j := by
  change (match j == k with
    | true => some x
    | false => l.lookup j) = _
  by_cases h : j = k
  · simp [h]
  · simp [beq_false_of_ne h, h]

theorem lookup_insertEntry (k j : String) (x : α) (l : List (String × α)) :
    (insertEntry k x l).lookup j = if j = k then some x else l.lookup j := by
  induction l with
  | nil => exact lookup_cons j k x []
  | cons d rest ih =>
    obtain ⟨a, y⟩ := d
    unfold insertEntry
    by_cases hlt : k < a
    · simp only [hlt, ↓reduceIte, lookup_cons]
    · by_cases heq : k = a
      · subst heq
        simp only [hlt, ↓reduceIte, lookup_cons]
        by_cases h : j = k <;> simp [h]
      · simp only [hlt, heq, ↓reduceIte, lookup_cons, ih]
        by_cases h : j = k
        · subst h
          simp [heq]
        · simp [h]

@[simp] theorem find?_insert (m : NameMap α) (k j : String) (x : α) :
    (m.insert k x).find? j = if j = k then some x else m.find? j :=
  lookup_insertEntry k j x m.entries

@[simp] theorem find?_empty (k : String) : (empty : NameMap α).find? k = none := rfl

theorem keys_pairwise (m : NameMap α) : m.keys.Pairwise (· < ·) :=
  List.pairwise_map.2 m.ascending

theorem find?_eq_some_iff {m : NameMap α} {k : String} {x : α} :
    m.find? k = some x ↔ (k, x) ∈ m.entries := by
  obtain ⟨l, h⟩ := m
  simp only [find?]
  induction l with
  | nil => simp
  | cons d rest ih =>
    obtain ⟨a, y⟩ := d
    obtain ⟨hd, hr⟩ := List.pairwise_cons.1 h
    rw [lookup_cons]
    by_cases hk : k = a
    · subst hk
      have hx : (k, x) ∉ rest := fun hm => String.lt_irrefl k (hd (k, x) hm)
      simp [hx, eq_comm]
    · simp [hk, ih hr]

theorem mem_keys_iff {m : NameMap α} {k : String} : k ∈ m.keys ↔ ∃ x, m.find? k = some x := by
  simp [keys, find?_eq_some_iff]

@[simp] theorem keys_map (f : String → α → β) (m : NameMap α) : (m.map f).keys = m.keys := by
  simp [keys, map, Function.comp_def]

@[simp] theorem find?_map (f : String → α → β) (m : NameMap α) (k : String) :
    (m.map f).find? k = (m.find? k).map (f k) := by
  obtain ⟨l, h⟩ := m
  simp only [find?, map]
  clear h
  induction l with
  | nil => rfl
  | cons d rest ih =>
    obtain ⟨a, y⟩ := d
    simp only [List.map_cons, lookup_cons, ih]
    by_cases hk : k = a <;> simp [hk]

/-- A key that a list has one value for is mapped to it. -/
theorem find?_ofList_of_mem {l : List (String × α)} {k : String} {x : α} (hmem : (k, x) ∈ l)
    (h : ∀ y, (k, y) ∈ l → y = x) : (ofList l).find? k = some x := by
  suffices hfold : ∀ m : NameMap α, (k, x) ∈ l ∨ m.find? k = some x →
      (l.foldl (fun m e => m.insert e.1 e.2) m).find? k = some x from hfold empty (.inl hmem)
  clear hmem
  induction l with
  | nil => simp
  | cons e rest ih =>
    obtain ⟨j, y⟩ := e
    intro m hm
    refine ih (fun z hz => h z (List.mem_cons_of_mem _ hz)) _ ?_
    rw [find?_insert]
    by_cases hk : k = j
    · subst hk
      rw [if_pos rfl, h y List.mem_cons_self]
      exact .inr rfl
    · rw [if_neg hk]
      simpa [hk] using hm

theorem ext {m n : NameMap α} (h : ∀ k, m.find? k = n.find? k) : m = n := by
  have hmem : ∀ e, e ∈ m.entries ↔ e ∈ n.entries := fun e => by
    rw [← Prod.eta e, ← find?_eq_some_iff, ← find?_eq_some_iff, h]
  obtain ⟨l, hl⟩ := m
  obtain ⟨r, hr⟩ := n
  suffices l = r by subst this; rfl
  clear h
  induction l generalizing r with
  | nil => cases r with
    | nil => rfl
    | cons e r => simpa using hmem e
  | cons d l ih => cases r with
    | nil => simpa using hmem d
    | cons e r =>
      obtain ⟨hd, hl'⟩ := List.pairwise_cons.1 hl
      obtain ⟨he, hr'⟩ := List.pairwise_cons.1 hr
      have heq : d = e := by
        rcases List.mem_cons.1 ((hmem d).1 List.mem_cons_self) with h | h
        · exact h
        · rcases List.mem_cons.1 ((hmem e).2 List.mem_cons_self) with h' | h'
          · exact h'.symm
          · exact absurd (String.lt_trans (he d h) (hd e h')) (String.lt_irrefl _)
      subst heq
      rw [ih hl' r hr' fun a => ?_]
      constructor <;> intro ha
      · rcases List.mem_cons.1 ((hmem a).1 (List.mem_cons_of_mem _ ha)) with h | h
        · exact absurd (hd a ha) (h ▸ String.lt_irrefl _)
        · exact h
      · rcases List.mem_cons.1 ((hmem a).2 (List.mem_cons_of_mem _ ha)) with h | h
        · exact absurd (he a ha) (h ▸ String.lt_irrefl _)
        · exact h

end NameMap

end YangBind
