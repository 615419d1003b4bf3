import Mathlib.Data.List.Forall2
import Mathlib.Data.Option.Basic
import YangBind.Mapper.Traced
import YangBind.NameMap

/-! Computations side by side. Two of them agree up to a relation if both fail with one error or if
both succeed with related results; agreement goes through sequences, and it makes maps that are
collected pair by pair agree key by key. -/

namespace YangBind

universe u v

/-- The same failure, or related results. -/
inductive Agree {ε : Type u} {α β : Type v} (R : α → β → Prop) : Except ε α → Except ε β → Prop
  | ok {a : α} {b : β} (h : R a b) : Agree R (.ok a) (.ok b)
  | error (e : ε) : Agree R (.error e) (.error e)

namespace Agree

variable {ε : Type u} {α β γ δ : Type v} {R : α → β → Prop} {S : γ → δ → Prop}

theorem refl {R : α → α → Prop} (h : ∀ a, R a a) (x : Except ε α) : Agree R x x := by
  cases x with
  | ok a => exact .ok (h a)
  | error e => exact .error e

theorem eq_iff {x y : Except ε α} : Agree Eq x y ↔ x = y := by
  constructor
  · rintro (⟨rfl⟩ | e)
    · rfl
    · rfl
  · rintro rfl
    exact refl (fun _ => rfl) x

theorem error_iff {x : Except ε α} {y : Except ε β} (h : Agree R x y) {e : ε} :
    y = .error e ↔ x = .error e := by
  cases h with
  | ok hab => simp
  | error e' => simp

theorem of_ok {x : Except ε α} {y : Except ε β} (h : Agree R x y) {a : α} {b : β}
    (hx : x = .ok a) (hy : y = .ok b) : R a b := by
  cases h with
  | ok hab =>
    cases hx
    cases hy
    exact hab
  | error e => cases hx

theorem mono {R' : α → β → Prop} (h : ∀ a b, R a b → R' a b) {x : Except ε α} {y : Except ε β}
    (hxy : Agree R x y) : Agree R' x y := by
  cases hxy with
  | ok hab => exact .ok (h _ _ hab)
  | error e => exact .error e

theorem bind {x : Except ε α} {y : Except ε β} {f : α → Except ε γ} {g : β → Except ε δ}
    (hxy : Agree R x y) (hfg : ∀ a b, R a b → Agree S (f a) (g b)) :
    Agree S (x.bind f) (y.bind g) := by
  cases hxy with
  | ok hab => exact hfg _ _ hab
  | error e => exact .error e

/-- The same with one computation on both sides. -/
theorem bind_self (x : Except ε α) {f : α → Except ε γ} {g : α → Except ε δ}
    (hfg : ∀ a, x = .ok a → Agree S (f a) (g a)) : Agree S (x.bind f) (x.bind g) := by
  cases x with
  | ok a => exact hfg a rfl
  | error e => exact .error e

end Agree

namespace Traced

variable {α β γ δ : Type u} {R : α → β → Prop} {S : γ → δ → Prop}

theorem bind_congr_of_ok {x : Traced α} {f g : α → Traced β}
    (h : ∀ a, x.outcome = .ok a → f a = g a) : x >>= f = x >>= g := by
  obtain ⟨outcome, calls⟩ := x
  cases outcome with
  | error e => rfl
  | ok a =>
    change Traced.bind _ f = Traced.bind _ g
    simp only [Traced.bind, h a rfl]

theorem collect_congr {f g : α → Traced (List β)} {l : List α}
    (h : ∀ a ∈ l, f a = g a) : collect f l = collect g l := by
  induction l with
  | nil => rfl
  | cons a rest ih =>
    obtain ⟨ha, hrest⟩ := List.forall_mem_cons.1 h
    rw [collect, collect, ha, ih hrest]

theorem collect_map {f : β → Traced (List γ)} (g : α → β) (l : List α) :
    collect f (l.map g) = collect (fun a => f (g a)) l := by
  induction l with
  | nil => rfl
  | cons a rest ih => rw [List.map_cons, collect, collect, ih]

/-- Elements that have no results and ask nothing may be left out. -/
theorem collect_filter {f : α → Traced (List β)} {p : α → Bool} {l : List α}
    (h : ∀ a ∈ l, p a = false → f a = pure []) : collect f (l.filter p) = collect f l := by
  induction l with
  | nil => rfl
  | cons a rest ih =>
    obtain ⟨ha, hrest⟩ := List.forall_mem_cons.1 h
    rw [List.filter_cons]
    split
    case isTrue => rw [collect, collect, ih hrest]
    case isFalse hp =>
      rw [collect, ha (by simpa using hp), ih hrest]
      obtain ⟨outcome, calls⟩ := collect f rest
      cases outcome <;> simp [Traced.bind, pure]

theorem agree_bind {x : Traced α} {y : Traced β} {f : α → Traced γ} {g : β → Traced δ}
    (hxy : Agree R x.outcome y.outcome) (hfg : ∀ a b, R a b → Agree S (f a).outcome (g b).outcome) :
    Agree S (x >>= f).outcome (y >>= g).outcome := by
  change Agree S (x.bind f).outcome (y.bind g).outcome
  rw [outcome_bind, outcome_bind]
  exact hxy.bind hfg

theorem agree_bind_self (x : Traced α) {f : α → Traced γ} {g : α → Traced δ}
    (hfg : ∀ a, x.outcome = .ok a → Agree S (f a).outcome (g a).outcome) :
    Agree S (x >>= f).outcome (x >>= g).outcome := by
  change Agree S (x.bind f).outcome (x.bind g).outcome
  rw [outcome_bind, outcome_bind]
  exact Agree.bind_self _ hfg

theorem agree_collect {ι : Type u} {f : ι → Traced (List α)} {g : ι → Traced (List β)} {l : List ι}
    (h : ∀ i ∈ l, Agree (List.Forall₂ R) (f i).outcome (g i).outcome) :
    Agree (List.Forall₂ R) (collect f l).outcome (collect g l).outcome := by
  induction l with
  | nil => exact .ok .nil
  | cons i rest ih =>
    obtain ⟨hi, hrest⟩ := List.forall_mem_cons.1 h
    refine agree_bind hi fun as bs hab => ?_
    exact agree_bind (ih hrest) fun _ _ hmore => .ok (List.rel_append hab hmore)

end Traced

namespace NameMap

variable {α β : Type u} {γ δ : Type v} {R : String → α → β → Prop}

/-- Whether two maps have the same keys, with related values under each of them. -/
def Related (R : String → α → β → Prop) (m : NameMap α) (n : NameMap β) : Prop :=
  ∀ k, Option.Rel (R k) (m.find? k) (n.find? k)

theorem Related.cases {m : NameMap α} {n : NameMap β} (h : Related R m n) (k : String) :
    (m.find? k = none ∧ n.find? k = none) ∨
      ∃ x y, m.find? k = some x ∧ n.find? k = some y ∧ R k x y := by
  have hk := h k
  generalize m.find? k = x at hk
  generalize n.find? k = y at hk
  cases hk with
  | none => exact .inl ⟨rfl, rfl⟩
  | some hxy => exact .inr ⟨_, _, rfl, rfl, hxy⟩

theorem Related.insert {m : NameMap α} {n : NameMap β} (h : Related R m n) {k : String} {x : α}
    {y : β} (hxy : R k x y) : Related R (m.insert k x) (n.insert k y) := by
  intro j
  rw [find?_insert, find?_insert]
  by_cases hj : j = k
  · subst hj
    simpa using Option.Rel.some hxy
  · simpa [hj] using h j

/-- Whether two pairs have the same key and related values. -/
def Paired (R : String → α → β → Prop) (p : String × α) (q : String × β) : Prop :=
  p.1 = q.1 ∧ R p.1 p.2 q.2

theorem related_ofList {l : List (String × α)} {r : List (String × β)}
    (h : List.Forall₂ (Paired R) l r) :
    Related R (ofList l) (ofList r) := by
  suffices hfold : ∀ m n, Related R m n → Related R
      (l.foldl (fun m e => m.insert e.1 e.2) m) (r.foldl (fun m e => m.insert e.1 e.2) n) from
    hfold empty empty fun _ => .none
  induction h with
  | nil => exact fun _ _ hmn => hmn
  | @cons p q _ _ hpq _ ih =>
    obtain ⟨hkey, hxy⟩ := hpq
    intro m n hmn
    rw [List.foldl_cons, List.foldl_cons, ← hkey]
    exact ih _ _ (hmn.insert hxy)

theorem Related.mono {R' : String → α → β → Prop} {m : NameMap α} {n : NameMap β}
    (h : Related R m n) (hR : ∀ k x y, R k x y → R' k x y) : Related R' m n := by
  intro k
  obtain ⟨hm, hn⟩ | ⟨x, y, hm, hn, hxy⟩ := h.cases k
  · rw [hm, hn]
    exact .none
  · rw [hm, hn]
    exact .some (hR k x y hxy)

theorem Related.map {S : String → γ → δ → Prop} {m : NameMap α} {n : NameMap β}
    {f : String → α → γ} {g : String → β → δ} (h : Related R m n)
    (hfg : ∀ k x y, R k x y → S k (f k x) (g k y)) : Related S (m.map f) (n.map g) := by
  intro k
  rw [find?_map, find?_map]
  obtain ⟨hm, hn⟩ | ⟨x, y, hm, hn, hxy⟩ := h.cases k
  · rw [hm, hn]
    exact .none
  · rw [hm, hn]
    exact .some (hfg k x y hxy)

theorem related_eq_iff {m n : NameMap α} : Related (fun _ => Eq) m n ↔ m = n := by
  constructor
  · intro h
    refine ext fun k => ?_
    obtain ⟨hm, hn⟩ | ⟨x, y, hm, hn, rfl⟩ := h.cases k
    · rw [hm, hn]
    · rw [hm, hn]
  · rintro rfl
    intro k
    cases m.find? k with
    | none => exact .none
    | some x => exact .some rfl

end NameMap

end YangBind
