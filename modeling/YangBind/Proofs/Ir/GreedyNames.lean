import YangBind.Proofs.Ir.DisplayName

/-! Display names are assigned greedily. A key gets the first of its candidates that is free when it
is its turn, wherever the count of its rivals makes the search for it begin; so later keys have no
say in its name. -/

namespace YangBind

namespace DisplayName

/-- The search for a name, without a bound on its tries: one more underscore is put at the end as
long as the folding is taken. -/
inductive Seeks (taken : Set String) : String → String → Prop
  | free {name : String} (h : fold name ∉ taken) : Seeks taken name name
  | more {name given : String} (h : fold name ∈ taken) (rest : Seeks taken (name ++ "_") given) :
    Seeks taken name given

variable {taken : Set String} {intended : NameMap String} {key name given : String} {m n : Nat}

theorem Seeks.of_taken (htaken : ∀ i < n, fold (name ++ underscores i) ∈ taken)
    (hfree : fold (name ++ underscores n) ∉ taken) : Seeks taken name (name ++ underscores n) := by
  induction n generalizing name with
  | zero =>
    rw [append_underscores_zero] at hfree ⊢
    exact .free hfree
  | succ n ih =>
    have hname := htaken 0 (Nat.succ_pos n)
    rw [append_underscores_zero] at hname
    rw [← append_underscores_succ] at hfree ⊢
    refine .more hname (ih (fun i hi => ?_) hfree)
    rw [append_underscores_succ]
    exact htaken (i + 1) (Nat.succ_lt_succ hi)

theorem Seeks.unique (h : Seeks taken name given) {other : String} (h' : Seeks taken name other) :
    given = other := by
  induction h with
  | free hfree =>
    cases h' with
    | free => rfl
    | more htaken => exact absurd htaken hfree
  | more htaken _ ih =>
    cases h' with
    | free hfree => exact absurd htaken hfree
    | more _ rest => exact ih rest

/-- From any candidate up to the least free one, the search ends there. -/
theorem seeks_iff (h : IsLeast {i | fold (name ++ underscores i) ∉ taken} m) (hn : n ≤ m) :
    Seeks taken (name ++ underscores n) given ↔ given = name ++ underscores m := by
  obtain ⟨rest, rfl⟩ := Nat.exists_eq_add_of_le hn
  have hseeks : Seeks taken (name ++ underscores n) (name ++ underscores (n + rest)) := by
    rw [← append_underscores_add]
    refine .of_taken (fun i hi => ?_) ?_
    · rw [append_underscores_add]
      exact not_not.1 fun hfree => absurd (h.2 hfree) (by omega)
    · rw [append_underscores_add]
      exact h.1
  exact ⟨fun h' => h'.unique hseeks, fun h' => h' ▸ hseeks⟩

theorem size_before_assign (h : intended.find? key = some name) :
    ((assign intended).before key).size = (intended.before key).size := by
  rw [before_assign h, ← NameMap.length_keys, keys_assign, NameMap.length_keys]

/-- Every candidate that is passed over is the name of a smaller key. -/
theorem le_size_before (h : intended.find? key = some name)
    (hm : IsLeast {n | fold (name ++ underscores n) ∉ takenBefore (assign intended) key} m) :
    m ≤ (intended.before key).size := by
  have htaken : ∀ i < m, fold (name ++ underscores i) ∈
      foldings ((assign intended).before key).entries := by
    intro i hi
    rw [← mem_takenBefore_iff]
    exact not_not.1 fun hfree => absurd (hm.2 hfree) (Nat.not_le_of_lt hi)
  calc m ≤ (foldings ((assign intended).before key).entries).length := le_length_of_taken htaken
    _ = ((assign intended).before key).size := by simp [foldings, NameMap.size]
    _ = (intended.before key).size := size_before_assign h

/-- Where two maps agree on the keys up to `key`, their assignments agree on `key`. -/
theorem assign_find?_congr {intended' : NameMap String} (hname : intended.find? key = some name)
    (h : ∀ j ≤ key, intended.find? j = intended'.find? j) :
    (assign intended).find? key = (assign intended').find? key := by
  have hname' : intended'.find? key = some name := (h key (String.le_refl key)).symm.trans hname
  have hbefore : intended.before key = intended'.before key :=
    NameMap.before_congr fun j hlt => h j (String.not_lt.1 (String.lt_asymm hlt))
  rw [assign_find?_eq hname, assign_find?_eq hname', hbefore]

/-- Names for keys that come in any order: they are sorted before they are served. -/
def assignAll (fields : List (String × String)) : List (String × String) :=
  assignFrom [] [] (fields.mergeSort fun a b => a.1 ≤ b.1)

theorem assignAll_eq {fields : List (String × String)} (h : fields.Perm intended.entries) :
    assignAll fields = (assign intended).entries := by
  rw [assignAll, NameMap.mergeSort_eq_entries h]
  rfl

end DisplayName

namespace CompiledDirectory

open DisplayName

variable {d : CompiledDirectory} {key name : String}

/-- The second `X` would become `X_`, which is the name of a smaller key. -/
def suffixClash : CompiledDirectory := ofNames [("a", "X_"), ("b", "X"), ("c", "X")]

/-- Every key has its intended name with underscores at the end, the fewest that keep it from
colliding with the names of smaller keys, and no more than there are smaller keys. The search for
it, begun at as many underscores as the key has rivals, ends. -/
theorem displayNames_least (h : d.intendedNames.find? key = some name) :
    let taken := takenBefore d.displayNames key
    d.displayNames.keys = d.fields.keys ∧
      ∃ m, d.displayNames.find? key = some (name ++ underscores m) ∧
        IsLeast {n | fold (name ++ underscores n) ∉ taken} m ∧
        m ≤ (d.fields.before key).size ∧
        ∀ given, Seeks taken (name ++ underscores (rivals d.intendedNames key name).size) given ↔
          given = name ++ underscores m := by
  intro taken
  obtain ⟨m, hm, hrivals, hleast⟩ := isLeast_assign h
  have hsize := le_size_before h hleast
  rw [intendedNames, NameMap.size_before_map] at hsize
  exact ⟨by simp [displayNames], m, hm, hleast, hsize, fun given => seeks_iff hleast hrivals⟩

theorem displayNames_least_suffixClash :
    let taken := takenBefore suffixClash.displayNames "c"
    suffixClash.intendedNames.find? "c" = some "X" ∧
      suffixClash.displayNames.find? "c" = some ("X" ++ underscores 2) ∧
      IsLeast {n | fold ("X" ++ underscores n) ∉ taken} 2 ∧
      2 ≤ (suffixClash.fields.before "c").size ∧
      ∀ given, Seeks taken ("X" ++ underscores 1) given ↔ given = "X" ++ underscores 2 := by
  have hname : suffixClash.intendedNames.find? "c" = some "X" := by decide +kernel
  have hgiven : suffixClash.displayNames.find? "c" = some ("X" ++ underscores 2) := by
    decide +kernel
  have hrivals : (rivals suffixClash.intendedNames "c" "X").size = 1 := by decide +kernel
  obtain ⟨-, m, hm, hleast, hsize, hseeks⟩ := displayNames_least hname
  obtain rfl := append_underscores_inj (Option.some.inj (hm.symm.trans hgiven))
  rw [hrivals] at hseeks
  exact ⟨hname, hgiven, hleast, hsize, hseeks⟩

/-- Fields after a key have no say in its display name: two directories with the same intended names
up to a key give it one name, in whatever order their fields come. -/
theorem displayNames_stable {d' : CompiledDirectory} (hkey : key ∈ d.fields.keys)
    (h : ∀ j ≤ key, d.intendedNames.find? j = d'.intendedNames.find? j) :
    ∃ name, d.displayNames.find? key = some name ∧ d'.displayNames.find? key = some name ∧
      ∀ fields : List (String × String),
        fields.Perm d.intendedNames.entries ∨ fields.Perm d'.intendedNames.entries →
          (assignAll fields).lookup key = some name := by
  have hintended : key ∈ d.intendedNames.keys := by simpa [intendedNames] using hkey
  obtain ⟨called, hcalled⟩ := NameMap.mem_keys_iff.1 hintended
  obtain ⟨m, hname, -⟩ := isLeast_assign hcalled
  have hsame : d'.displayNames.find? key = some (called ++ underscores m) :=
    (assign_find?_congr hcalled h).symm.trans hname
  refine ⟨called ++ underscores m, hname, hsame, ?_⟩
  rintro fields (hfields | hfields)
  · rw [assignAll_eq hfields]
    exact hname
  · rw [assignAll_eq hfields]
    exact hsame

/-- A later field called `X_` does not rename the key that had to become `X_` before it. -/
theorem displayNames_stable_added :
    let d := ofNames [("b", "X"), ("c", "X")]
    let d' := ofNames [("b", "X"), ("c", "X"), ("d", "X_")]
    (∀ j ≤ "c", d.intendedNames.find? j = d'.intendedNames.find? j) ∧
      d.displayNames.find? "c" = some "X_" ∧ d'.displayNames.find? "c" = some "X_" ∧
      (assignAll [("d", "X_"), ("c", "X"), ("b", "X")]).lookup "c" = some "X_" := by
  intro d d'
  have hgiven : d.displayNames.find? "c" = some "X_" := by decide +kernel
  have hagree : ∀ j ≤ "c", d.intendedNames.find? j = d'.intendedNames.find? j := by
    intro j hj
    have hlast : j ≠ "d" := by
      rintro rfl
      exact absurd hj (by decide)
    rw [intendedNames_ofNames, intendedNames_ofNames]
    simp [NameMap.ofList, hlast]
  obtain ⟨name, hname, hname', hany⟩ := displayNames_stable (by decide +kernel) hagree
  obtain rfl := Option.some.inj (hgiven.symm.trans hname)
  exact ⟨hagree, hname, hname', hany _ (.inr (by decide +kernel))⟩

end CompiledDirectory

end YangBind
