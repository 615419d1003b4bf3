import YangBind.Proofs.Ir.DisplayName

/-! When counting alone names the keys. If no intended name is another one with underscores at its
end, names of different foldings never meet, and a key has as many underscores as it has rivals.
Otherwise the first key of a folding still keeps its name, unless that ends with an underscore. -/

namespace YangBind

namespace DisplayName

/-- Whether no intended name folds to the folding of another one with underscores at its end. -/
def SuffixFree (intended : NameMap String) : Prop :=
  ∀ j k a b, intended.find? j = some a → intended.find? k = some b →
    ∀ n, fold a = fold b ++ underscores n → n = 0

variable {seen taken : List String} {intended : NameMap String} {key name : String}

theorem eq_append_underscores_sub {a b : String} {m n : Nat}
    (h : a ++ underscores m = b ++ underscores n) (hle : m ≤ n) : a = b ++ underscores (n - m) := by
  obtain ⟨k, rfl⟩ := Nat.exists_eq_add_of_le' hle
  rw [← append_underscores_add] at h
  have hchars := congrArg String.toList h
  rw [String.toList_append, String.toList_append, List.append_cancel_right_eq] at hchars
  rw [String.toList_injective hchars, Nat.add_sub_cancel]

theorem getLast?_of_fold {f : String} {n : Nat} (h : fold name = f ++ underscores (n + 1)) :
    name.toList.getLast? = some '_' := by
  apply Text.getLast?_of_lowerChars
  have hchars : Text.lowerChars [] name.toList = (f ++ underscores (n + 1)).toList := by
    rw [← h, fold, Text.lower, String.toList_ofList]
  rw [hchars, underscores, String.toList_append, String.toList_ofList, List.replicate_succ',
    ← List.append_assoc, List.getLast?_concat]

theorem suffixFree_of_getLast?
    (h : ∀ key name, intended.find? key = some name → name.toList.getLast? ≠ some '_') :
    SuffixFree intended := by
  intro j k a b ha _ n heq
  cases n with
  | zero => rfl
  | succ n => exact absurd (getLast?_of_fold heq) (h j a ha)

/-- Whether no folding in a list is another one with underscores at its end. -/
def Apart (l : List String) : Prop :=
  ∀ f ∈ l, ∀ g ∈ l, ∀ n, f = g ++ underscores n → n = 0

theorem Apart.mono {l l' : List String} (h : Apart l) (hsub : l' ⊆ l) : Apart l' :=
  fun f hf g hg => h f (hsub hf) g (hsub hg)

theorem mem_foldings_entries {f : String} :
    f ∈ foldings intended.entries ↔ ∃ k a, intended.find? k = some a ∧ fold a = f := by
  simp [foldings, NameMap.find?_eq_some_iff]

theorem SuffixFree.apart (h : SuffixFree intended) : Apart (foldings intended.entries) := by
  intro f hf g hg
  obtain ⟨j, a, ha, rfl⟩ := mem_foldings_entries.1 hf
  obtain ⟨k, b, hb, rfl⟩ := mem_foldings_entries.1 hg
  exact h j k a b ha hb

/-- Whether all that is taken are candidates that the counts have passed. -/
def CountsExact (seen taken : List String) : Prop :=
  ∀ f ∈ taken, ∃ g, ∃ i < seen.count g, f = g ++ underscores i

namespace CountsExact

/-- The candidate at the count is free: it could only be taken for the same folding, whose count
has not passed it. -/
theorem not_mem (h : CountsExact seen taken) {f : String} (hapart : Apart (f :: seen)) :
    f ++ underscores (seen.count f) ∉ taken := by
  intro hmem
  obtain ⟨g, i, hi, heq⟩ := h _ hmem
  have hg : g ∈ f :: seen :=
    List.mem_cons_of_mem _ (List.count_pos_iff.1 (Nat.zero_lt_of_lt hi))
  obtain hle | hle := Nat.le_total (seen.count f) i
  · have hsub := eq_append_underscores_sub heq hle
    rw [hapart f List.mem_cons_self g hg _ hsub, append_underscores_zero] at hsub
    rw [hsub] at hle
    exact absurd hi (Nat.not_lt_of_le hle)
  · have hsub := eq_append_underscores_sub heq.symm hle
    have hzero := hapart g hg f List.mem_cons_self _ hsub
    rw [hzero, append_underscores_zero] at hsub
    rw [hsub] at hi
    omega

theorem firstFree_eq (h : CountsExact seen taken) (hapart : Apart (fold name :: seen)) :
    firstFree taken (name ++ underscores (seen.count (fold name))) =
      name ++ underscores (seen.count (fold name)) := by
  apply firstFree_of_not_mem
  rw [fold_append_underscores]
  exact h.not_mem hapart

theorem serve (h : CountsExact seen taken) (f : String) :
    CountsExact (f :: seen) ((f ++ underscores (seen.count f)) :: taken) := by
  intro x hx
  obtain rfl | hx := List.mem_cons.1 hx
  · exact ⟨f, seen.count f, by rw [List.count_cons_self]; exact Nat.lt_succ_self _, rfl⟩
  · obtain ⟨g, i, hi, heq⟩ := h x hx
    exact ⟨g, i, Nat.lt_of_lt_of_le hi (List.count_le_count_cons), heq⟩

theorem assignFrom (h : CountsExact seen taken) {l : List (String × String)}
    (hapart : Apart (foldings l ++ seen)) :
    CountsExact (foldings l ++ seen)
      (foldings (DisplayName.assignFrom seen taken l) ++ taken) := by
  induction l generalizing seen taken with
  | nil => exact h
  | cons e rest ih =>
    rw [foldings_cons_append] at hapart ⊢
    have hserved := h.serve (fold e.2)
    -- the candidate at the count is the name that is given
    rw [← fold_append_underscores,
      ← h.firstFree_eq (hapart.mono (List.subset_append_right _ _))] at hserved
    simp only [DisplayName.assignFrom, foldings_cons_append]
    exact ih hserved hapart

end CountsExact

theorem countsExact_assign (h : Apart (foldings intended.entries)) :
    CountsExact (foldings intended.entries) (foldings (assign intended).entries) := by
  have hnil : CountsExact [] [] := nofun
  have hassign := hnil.assignFrom (l := intended.entries) (by rwa [List.append_nil])
  rw [List.append_nil, List.append_nil] at hassign
  exact hassign

theorem SuffixFree.assign_find? (h : SuffixFree intended) (hname : intended.find? key = some name) :
    (assign intended).find? key =
      some (name ++ underscores (rivals intended key name).size) := by
  have hsub : fold name :: foldings (intended.before key).entries ⊆
      foldings intended.entries := by
    refine List.cons_subset.2 ⟨mem_foldings_entries.2 ⟨key, name, hname, rfl⟩, fun f hf => ?_⟩
    obtain ⟨j, a, ha, hf⟩ := mem_foldings_entries.1 hf
    exact mem_foldings_entries.2 ⟨j, a, (NameMap.find?_before_eq_some_iff.1 ha).2, hf⟩
  have hapart := h.apart.mono hsub
  have hexact := countsExact_assign (hapart.mono (List.subset_cons_self _ _))
  rw [assign_find?_eq hname, nameAfter, hexact.firstFree_eq hapart, size_rivals]

/-- The first key of a folding keeps its name, unless that ends with an underscore. -/
theorem assign_find?_of_first (hname : intended.find? key = some name)
    (hlast : name.toList.getLast? ≠ some '_')
    (hfirst : ∀ j < key, ∀ other, intended.find? j = some other → fold other ≠ fold name) :
    (assign intended).find? key = some name := by
  obtain ⟨n, hn, hzero⟩ := assign_find? hname
  suffices n = 0 by rw [hn, this, append_underscores_zero]
  refine hzero.2 fun j given hlt hgiven heq => ?_
  obtain ⟨other, m, hother, rfl, -⟩ := exists_of_assign_find? hgiven
  rw [fold_append_underscores] at heq
  cases m with
  | zero => exact hfirst j hlt other hother (by rwa [append_underscores_zero] at heq)
  | succ m => exact hlast (getLast?_of_fold heq.symm)

end DisplayName

namespace CompiledDirectory

open DisplayName

/-- Three fields that are called alike but for the case, and one that is not. -/
def sameNames : CompiledDirectory :=
  ofNames [("th-e", "ThE"), ("quick", "Quick"), ("thE", "The"), ("th-E", "ThE")]

/-- A name that another one becomes when an underscore is put at its end. -/
def suffixedFirst : CompiledDirectory := ofNames [("a", "X_"), ("b", "X"), ("c", "x")]

/-- Where no intended name folds to another one with underscores at its end, every key has as many
underscores as there are smaller keys of the same folding. In any case the smallest key of a folding
keeps its intended name if that does not end with an underscore. -/
theorem displayNames_counted (d : CompiledDirectory) :
    (SuffixFree d.intendedNames →
      ∀ key name, d.intendedNames.find? key = some name →
        d.displayNames.find? key =
          some (name ++ underscores (rivals d.intendedNames key name).size)) ∧
    ∀ key name, d.intendedNames.find? key = some name → name.toList.getLast? ≠ some '_' →
      (∀ j < key, ∀ other, d.intendedNames.find? j = some other → fold other ≠ fold name) →
      d.displayNames.find? key = some name :=
  ⟨fun h _ _ hname => SuffixFree.assign_find? h hname,
    fun _ _ hname hlast hfirst => assign_find?_of_first hname hlast hfirst⟩

theorem displayNames_counted_sameNames :
    SuffixFree sameNames.intendedNames ∧
      sameNames.displayNames.find? "thE" = some ("The" ++ underscores 2) ∧
      ¬SuffixFree suffixedFirst.intendedNames ∧
      suffixedFirst.displayNames.find? "b" = some "X" := by
  have hfree : SuffixFree sameNames.intendedNames := by
    refine suffixFree_of_getLast? fun key name hname => ?_
    have hplain : ∀ e ∈ sameNames.intendedNames.entries, e.2.toList.getLast? ≠ some '_' := by
      decide +kernel
    exact hplain (key, name) (NameMap.find?_eq_some_iff.1 hname)
  have hrivals : (rivals sameNames.intendedNames "thE" "The").size = 2 := by decide +kernel
  have hname : sameNames.intendedNames.find? "thE" = some "The" := by decide +kernel
  have hcounted := (displayNames_counted sameNames).1 hfree "thE" "The" hname
  rw [hrivals] at hcounted
  refine ⟨hfree, hcounted, fun h => ?_, ?_⟩
  · exact absurd (h "a" "b" "X_" "X" (by decide +kernel) (by decide +kernel) 1 (by decide +kernel))
      Nat.one_ne_zero
  · refine (displayNames_counted suffixedFirst).2 "b" "X" (by decide +kernel) (by decide +kernel) ?_
    intro j hj other hother
    have hbefore : ∀ e ∈ suffixedFirst.intendedNames.entries, e.1 < "b" → fold e.2 ≠ fold "X" := by
      decide +kernel
    exact hbefore (j, other) (NameMap.find?_eq_some_iff.1 hother) hj

end CompiledDirectory

end YangBind
