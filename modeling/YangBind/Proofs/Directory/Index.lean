import YangBind.Directory.Index
import YangBind.Proofs.NameMap

/-! When directories have an index, and what it says. No two of them may have one name; the names
in order are then those of the directories. -/

namespace YangBind

theorem length_le_one_iff_of_nodup {α : Type} {l : List α} (h : l.Nodup) :
    l.length ≤ 1 ↔ ∀ a ∈ l, ∀ b ∈ l, a = b := by
  cases l with
  | nil => simp
  | cons a rest =>
    cases rest with
    | nil => simp
    | cons b rest =>
      have hab : a ≠ b := by
        rintro rfl
        simp at h
      constructor
      · intro hlen
        simp at hlen
      · intro hall
        exact absurd (hall a (by simp) b (by simp)) hab

namespace DirectoryIndex

variable {directories : NameMap Directory} {index : DirectoryIndex} {path name : String}

/-- Whether no two directories have one name. -/
def NamedApart (directories : NameMap Directory) : Prop :=
  ∀ p q d e, directories.find? p = some d → directories.find? q = some e → d.name = e.name → p = q

theorem mem_producers_iff : path ∈ producers directories name ↔
    ∃ d, directories.find? path = some d ∧ d.name = name := by
  simp [producers, NameMap.find?_eq_some_iff]

theorem nodup_producers (directories : NameMap Directory) (name : String) :
    (producers directories name).Nodup :=
  directories.nodup_keys.sublist (List.filter_sublist.map Prod.fst)

theorem namedApart_iff_length_producers :
    NamedApart directories ↔ ∀ name, (producers directories name).length ≤ 1 := by
  simp only [length_le_one_iff_of_nodup (nodup_producers _ _), mem_producers_iff]
  constructor
  · rintro h name p ⟨d, hd, rfl⟩ q ⟨e, he, hname⟩
    exact h p q d e hd he hname.symm
  · intro h p q d e hd he hname
    exact h d.name p ⟨d, hd, rfl⟩ q ⟨e, he, hname.symm⟩

theorem mem_keys_byName :
    name ∈ (NameMap.ofList (directories.values.map fun d => (d.name, d))).keys ↔
      ∃ path d, directories.find? path = some d ∧ d.name = name := by
  simp only [NameMap.mem_keys_ofList, NameMap.values, List.map_map, List.mem_map, Prod.exists,
    NameMap.find?_eq_some_iff, Function.comp, Prod.mk.injEq]
  constructor
  · rintro ⟨-, path, d, hd, hname, -⟩
    exact ⟨path, d, hd, hname⟩
  · rintro ⟨path, d, hd, hname⟩
    exact ⟨d, path, d, hd, hname, rfl⟩

/-- An index that exists, of directories with different names. -/
theorem of_ofDirectories_ok (h : ofDirectories (some directories) = .ok index) :
    NamedApart directories ∧ index.orderedNames.Pairwise (· < ·) ∧
      ∀ name, name ∈ index.orderedNames ↔
        ∃ path d, directories.find? path = some d ∧ d.name = name := by
  simp only [ofDirectories] at h
  split at h
  case h_1 => cases h
  case h_2 hnone =>
    cases h
    refine ⟨namedApart_iff_length_producers.2 fun name => ?_, NameMap.keys_pairwise _,
      fun name => mem_keys_byName⟩
    by_cases hname : name ∈ (NameMap.ofList (directories.values.map fun d => (d.name, d))).keys
    · simpa using List.find?_eq_none.1 hnone name hname
    · have hempty : producers directories name = [] :=
        List.eq_nil_iff_forall_not_mem.2 fun path hpath =>
          hname (mem_keys_byName.2 ⟨path, mem_producers_iff.1 hpath⟩)
      simp [hempty]

/-- Directories have an index, or else the least of the names that several of them have is reported.
-/
theorem ofDirectories_cases (directories : NameMap Directory) :
    (NamedApart directories ∧ ∃ index, ofDirectories (some directories) = .ok index) ∨
      ∃ name, 1 < (producers directories name).length ∧
        ofDirectories (some directories) =
          .error (.nameConflict name (producers directories name)) := by
  cases h : ofDirectories (some directories) with
  | ok index => exact .inl ⟨(of_ofDirectories_ok h).1, index, rfl⟩
  | error e =>
    simp only [ofDirectories] at h
    split at h
    case h_1 name hfound =>
      cases h
      exact .inr ⟨name, by simpa using List.find?_some hfound, rfl⟩
    case h_2 => cases h

theorem not_namedApart_of_producers (h : 1 < (producers directories name).length) :
    ¬NamedApart directories :=
  fun hapart => absurd h (Nat.not_lt_of_le (namedApart_iff_length_producers.1 hapart name))

end DirectoryIndex

end YangBind
