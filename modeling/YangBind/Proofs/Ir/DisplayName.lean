import Mathlib.Data.List.Nodup
import Mathlib.Data.List.Perm.Subperm
import Mathlib.Order.Bounds.Basic
import YangBind.Ir.DisplayName
import YangBind.Proofs.NameMap
import YangBind.Proofs.Text.LetterCase

/-! The display names that the keys of a directory get. What a key is given hangs on the smaller
keys alone: it is the intended name with the fewest underscores at its end that keep it from
colliding with theirs. -/

namespace YangBind

namespace DisplayName

theorem append_underscores_succ (name : String) (n : Nat) :
    name ++ "_" ++ underscores n = name ++ underscores (n + 1) := by
  apply String.toList_injective
  simp [underscores, List.replicate_succ]

theorem append_underscores_add (name : String) (m n : Nat) :
    name ++ underscores m ++ underscores n = name ++ underscores (m + n) := by
  apply String.toList_injective
  simp [underscores]

@[simp] theorem append_underscores_zero (name : String) : name ++ underscores 0 = name := by
  apply String.toList_injective
  simp [underscores]

theorem append_underscores_inj {name : String} {m n : Nat}
    (h : name ++ underscores m = name ++ underscores n) : m = n := by
  have hlen := congrArg (·.toList.length) h
  simpa [underscores] using hlen

theorem append_underscores_eq_self_iff {name : String} {n : Nat} :
    name ++ underscores n = name ↔ n = 0 := by
  constructor
  · intro h
    exact append_underscores_inj (h.trans (append_underscores_zero name).symm)
  · rintro rfl
    exact append_underscores_zero name

theorem fold_append_underscores (name : String) (n : Nat) :
    fold (name ++ underscores n) = fold name ++ underscores n := by
  apply String.toList_injective
  simp [fold, Text.lower, underscores, Text.lowerChars_append_underscores]

theorem extend_eq (taken : List String) (tries : Nat) (name : String) :
    ∃ n, extend taken tries name = name ++ underscores n ∧
      (∀ i < n, fold (name ++ underscores i) ∈ taken) ∧
      (n = tries ∨ fold (name ++ underscores n) ∉ taken) := by
  induction tries generalizing name with
  | zero => exact ⟨0, by simp [extend], nofun, .inl rfl⟩
  | succ tries ih =>
    by_cases h : fold name ∈ taken
    · obtain ⟨n, hn, hbelow, hend⟩ := ih (name ++ "_")
      simp only [append_underscores_succ] at hn hbelow hend
      refine ⟨n + 1, by rw [extend, if_pos h, hn], fun i hi => ?_, hend.imp_left (congrArg (· + 1))⟩
      cases i with
      | zero => rwa [append_underscores_zero]
      | succ i => exact hbelow i (Nat.lt_of_succ_lt_succ hi)
    · exact ⟨0, by simp [extend, h], nofun, .inr (by rwa [append_underscores_zero])⟩

/-- The candidates for a name fold apart, so no more of them are taken than there are foldings. -/
theorem le_length_of_taken {taken : List String} {name : String} {n : Nat}
    (h : ∀ i < n, fold (name ++ underscores i) ∈ taken) : n ≤ taken.length := by
  let candidates := (List.range n).map fun i => fold (name ++ underscores i)
  have hnodup : candidates.Nodup := by
    apply List.Nodup.map_on _ List.nodup_range
    intro i _ j _ hij
    simp only [fold_append_underscores] at hij
    exact append_underscores_inj hij
  have hsub : candidates ⊆ taken := by
    intro f hf
    obtain ⟨i, hi, rfl⟩ := List.mem_map.1 hf
    exact h i (List.mem_range.1 hi)
  have hlen := (List.subperm_of_subset hnodup hsub).length_le
  simpa [candidates] using hlen

theorem isLeast_firstFree (taken : List String) (name : String) :
    ∃ n, firstFree taken name = name ++ underscores n ∧
      IsLeast {i | fold (name ++ underscores i) ∉ taken} n := by
  obtain ⟨n, hn, hbelow, hend⟩ := extend_eq taken taken.length name
  have hfree : fold (name ++ underscores n) ∉ taken := by
    intro hmem
    obtain rfl | hend := hend
    · -- one candidate more than there are foldings
      have hall : ∀ i < taken.length + 1, fold (name ++ underscores i) ∈ taken := by
        intro i hi
        obtain hi | rfl := Nat.lt_succ_iff_lt_or_eq.1 hi
        · exact hbelow i hi
        · exact hmem
      exact absurd (le_length_of_taken hall) (Nat.not_succ_le_self _)
    · exact hend hmem
  exact ⟨n, hn, hfree, fun i hi => Nat.le_of_not_lt fun hlt => hi (hbelow i hlt)⟩

theorem firstFree_of_not_mem {taken : List String} {name : String} (h : fold name ∉ taken) :
    firstFree taken name = name := by
  obtain ⟨n, hn, hleast⟩ := isLeast_firstFree taken name
  have hzero : n ≤ 0 := hleast.2 (by simpa using h)
  rw [hn, Nat.le_zero.1 hzero, append_underscores_zero]

/-- The foldings of the names in a list, the last one first, as they come to be `seen` and `taken`.
-/
def foldings (l : List (String × String)) : List String := (l.map fun e => fold e.2).reverse

theorem foldings_cons_append (e : String × String) (l : List (String × String))
    (rest : List String) : foldings (e :: l) ++ rest = foldings l ++ fold e.2 :: rest := by
  simp [foldings]

theorem assignFrom_append (seen taken : List String) (front back : List (String × String)) :
    assignFrom seen taken (front ++ back) = assignFrom seen taken front ++
      assignFrom (foldings front ++ seen) (foldings (assignFrom seen taken front) ++ taken)
        back := by
  induction front generalizing seen taken with
  | nil => rfl
  | cons e front ih =>
    simp only [List.cons_append, assignFrom, ih, foldings_cons_append]

/-- Whether of every folding as many candidates are taken as it was seen times, from the bare one
up. -/
def CountsTaken (seen taken : List String) : Prop :=
  ∀ f, ∀ i < seen.count f, f ++ underscores i ∈ taken

namespace CountsTaken

variable {seen taken : List String}

theorem isLeast_given (h : CountsTaken seen taken) (name : String) :
    ∃ m, firstFree taken (name ++ underscores (seen.count (fold name))) = name ++ underscores m ∧
      seen.count (fold name) ≤ m ∧ IsLeast {i | fold (name ++ underscores i) ∉ taken} m := by
  obtain ⟨n, hn, hfree, hleast⟩ :=
    isLeast_firstFree taken (name ++ underscores (seen.count (fold name)))
  simp only [append_underscores_add] at hn hfree hleast
  refine ⟨_, hn, Nat.le_add_right _ _, hfree, fun i hi => ?_⟩
  by_cases hcount : i < seen.count (fold name)
  · refine absurd ?_ hi
    rw [fold_append_underscores]
    exact h _ i hcount
  · obtain ⟨j, rfl⟩ := Nat.exists_eq_add_of_le (Nat.le_of_not_lt hcount)
    exact Nat.add_le_add_left (hleast hi) _

/-- Serving a key keeps the counts: all candidates up to the one that is given are then taken. -/
theorem serve (h : CountsTaken seen taken) (name : String) :
    CountsTaken (fold name :: seen)
      (fold (firstFree taken (name ++ underscores (seen.count (fold name)))) :: taken) := by
  obtain ⟨m, hm, hcount, -, hleast⟩ := h.isLeast_given name
  intro f i hi
  rw [hm, List.mem_cons]
  by_cases hf : f = fold name
  · subst hf
    rw [List.count_cons_self] at hi
    rw [← fold_append_underscores]
    obtain hlt | rfl := Nat.lt_or_eq_of_le ((Nat.le_of_lt_succ hi).trans hcount)
    · exact .inr (not_not.1 fun hfree => absurd (hleast hfree) (Nat.not_le_of_lt hlt))
    · exact .inl rfl
  · rw [List.count_cons_of_ne (Ne.symm hf)] at hi
    exact .inr (h f i hi)

theorem assignFrom (h : CountsTaken seen taken) (l : List (String × String)) :
    CountsTaken (foldings l ++ seen)
      (foldings (DisplayName.assignFrom seen taken l) ++ taken) := by
  induction l generalizing seen taken with
  | nil => exact h
  | cons e rest ih =>
    simp only [DisplayName.assignFrom, foldings_cons_append]
    exact ih (h.serve e.2)

end CountsTaken

theorem countsTaken_assign (intended : NameMap String) :
    CountsTaken (foldings intended.entries) (foldings (assign intended).entries) := by
  have hnil : CountsTaken [] [] := fun f i hi => absurd hi (Nat.not_lt_zero i)
  have hassign := hnil.assignFrom intended.entries
  rw [List.append_nil, List.append_nil] at hassign
  exact hassign

/-- What a key of this intended name is given after the keys of `earlier`. -/
def nameAfter (earlier : NameMap String) (name : String) : String :=
  firstFree (foldings (assign earlier).entries)
    (name ++ underscores ((foldings earlier.entries).count (fold name)))

variable {intended : NameMap String} {key name : String}

theorem entries_assign_of_find? (h : intended.find? key = some name) :
    ∃ later, (assign intended).entries =
      (assign (intended.before key)).entries ++
        (key, nameAfter (intended.before key) name) :: later := by
  obtain ⟨back, hentries⟩ := NameMap.entries_eq_of_find? h
  have hassign : (assign intended).entries = _ := congrArg (assignFrom [] []) hentries
  rw [assignFrom_append, List.append_nil, List.append_nil, assignFrom] at hassign
  exact ⟨_, hassign⟩

theorem assign_find?_eq (h : intended.find? key = some name) :
    (assign intended).find? key = some (nameAfter (intended.before key) name) := by
  obtain ⟨later, hentries⟩ := entries_assign_of_find? h
  exact NameMap.find?_eq_some_iff.2 (by simp [hentries])

/-- The smaller keys are served as if there were no others. -/
theorem before_assign (h : intended.find? key = some name) :
    (assign intended).before key = assign (intended.before key) := by
  obtain ⟨later, hentries⟩ := entries_assign_of_find? h
  exact NameMap.before_eq_of_entries hentries

/-- The foldings of the names of smaller keys. -/
def takenBefore (names : NameMap String) (key : String) : Set String :=
  {f | ∃ j other, j < key ∧ names.find? j = some other ∧ fold other = f}

theorem mem_takenBefore_iff {names : NameMap String} {f : String} :
    f ∈ takenBefore names key ↔ f ∈ foldings (names.before key).entries := by
  simp [takenBefore, foldings, ← NameMap.find?_eq_some_iff, NameMap.find?_before_eq_some_iff,
    and_assoc]

/-- The smaller keys whose intended names collide with a name. -/
def rivals (intended : NameMap String) (key name : String) : NameMap String :=
  (intended.before key).filter fun _ other => fold other = fold name

theorem size_rivals : (rivals intended key name).size =
    (foldings (intended.before key).entries).count (fold name) := by
  rw [foldings, List.count_reverse, List.count, List.countP_map, List.countP_eq_length_filter]
  simp only [rivals, NameMap.size, NameMap.filter, Function.comp_def, beq_eq_decide]

/-- A key has its intended name with the fewest underscores that keep it from colliding with the
names of smaller keys; there are as many of them at least as the key has rivals. -/
theorem isLeast_assign (h : intended.find? key = some name) :
    ∃ m, (assign intended).find? key = some (name ++ underscores m) ∧
      (rivals intended key name).size ≤ m ∧
      IsLeast {n | fold (name ++ underscores n) ∉ takenBefore (assign intended) key} m := by
  obtain ⟨m, hm, hcount, hleast⟩ :=
    (countsTaken_assign (intended.before key)).isLeast_given name
  refine ⟨m, ?_, size_rivals ▸ hcount, ?_⟩
  · rw [assign_find?_eq h, nameAfter, hm]
  · simpa only [mem_takenBefore_iff, before_assign h] using hleast

theorem exists_of_assign_find? {given : String} (h : (assign intended).find? key = some given) :
    ∃ name m, intended.find? key = some name ∧ given = name ++ underscores m ∧
      fold given ∉ takenBefore (assign intended) key := by
  have hkey : key ∈ intended.keys := by
    rw [← keys_assign, NameMap.mem_keys_iff]
    exact ⟨given, h⟩
  obtain ⟨name, hname⟩ := NameMap.mem_keys_iff.1 hkey
  obtain ⟨m, hm, -, hleast⟩ := isLeast_assign hname
  obtain rfl := Option.some.inj (h.symm.trans hm)
  exact ⟨name, m, hname, rfl, hleast.1⟩

/-- A key has its intended name with underscores at the end, and none exactly if no smaller key was
given a name that collides with it. -/
theorem assign_find? (h : intended.find? key = some name) :
    ∃ n, (assign intended).find? key = some (name ++ underscores n) ∧
      (n = 0 ↔ ∀ j other, j < key → (assign intended).find? j = some other →
        fold other ≠ fold name) := by
  obtain ⟨n, hn, -, hfree, hleast⟩ := isLeast_assign h
  refine ⟨n, hn, ?_⟩
  have hzero : n = 0 ↔ fold name ∉ takenBefore (assign intended) key := by
    constructor
    · rintro rfl
      simpa using hfree
    · intro h
      exact Nat.le_zero.1 (hleast (by simpa using h))
  rw [hzero]
  exact ⟨fun h j other hlt hother heq => h ⟨j, other, hlt, hother, heq⟩,
    fun h ⟨j, other, hlt, hother, heq⟩ => h j other hlt hother heq⟩

end DisplayName

namespace CompiledDirectory

/-- What the fields are called before they are renamed. -/
def intendedNames (d : CompiledDirectory) : NameMap String := d.fields.map fun _ field => field.name

/-- A directory that has nothing but fields of these names. -/
def ofNames (names : List (String × String)) : CompiledDirectory :=
  { (default : CompiledDirectory) with
    fields := (NameMap.ofList names).map fun _ name => { (default : CompiledField) with name } }

theorem intendedNames_ofNames (names : List (String × String)) :
    (ofNames names).intendedNames = .ofList names := by
  apply NameMap.ext
  intro key
  simp only [intendedNames, ofNames, NameMap.find?_map]
  cases (NameMap.ofList names).find? key <;> rfl

end CompiledDirectory

end YangBind
