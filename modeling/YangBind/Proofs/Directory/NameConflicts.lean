import Mathlib.Data.List.Sort
import YangBind.Directory.NameClaims
import YangBind.Proofs.Directory.Index

/-! The outcome of indexing directories by name. There is an index exactly if no two directories
have one name, and only one index then; otherwise the least of the shared names is reported with all
of its paths. A single pass over the directories in any order comes to the same. -/

namespace YangBind

/-- A search in an ascending list finds the least of what it looks for. -/
theorem le_of_find?_ascending {l : List String} (h : l.Pairwise (· < ·)) {p : String → Bool}
    {x : String} (hx : l.find? p = some x) : ∀ y ∈ l, p y = true → x ≤ y := by
  obtain ⟨-, before, after, rfl, hbefore⟩ := List.find?_eq_some_iff_append.1 hx
  intro y hy hp
  rw [List.pairwise_append, List.pairwise_cons] at h
  obtain ⟨-, ⟨hafter, -⟩, -⟩ := h
  rcases List.mem_append.1 hy with hy | hy
  · simpa [hp] using hbefore y hy
  · rcases List.mem_cons.1 hy with rfl | hy
    · exact String.le_refl _
    · exact String.not_lt.1 (String.lt_asymm (hafter y hy))

namespace DirectoryIndex

variable {directories : NameMap Directory} {index : DirectoryIndex} {path name : String}
  {e : BindError}

/-- Whether two directories or more have this name. -/
def IsShared (directories : NameMap Directory) (name : String) : Prop :=
  ∃ p q d e, p ≠ q ∧ directories.find? p = some d ∧ directories.find? q = some e ∧
    d.name = name ∧ e.name = name

/-- What an index has to say of directories: their names in order, and for each name the directory
that has it. -/
structure IsIndexOf (index : DirectoryIndex) (directories : NameMap Directory) : Prop where
  ascending : index.orderedNames.Pairwise (· < ·)
  mem_iff : ∀ name, name ∈ index.orderedNames ↔
    ∃ path d, directories.find? path = some d ∧ d.name = name
  find?_iff : ∀ name d, index.byName.find? name = some d ↔
    ∃ path, directories.find? path = some d ∧ d.name = name

/-- What the report of a conflict has to say: the least name that is shared, and the paths of all
directories that have it, in order. -/
structure IsLeastConflict (directories : NameMap Directory) (name : String)
    (paths : List String) : Prop where
  shared : IsShared directories name
  least : ∀ other, IsShared directories other → name ≤ other
  ascending : paths.Pairwise (· < ·)
  mem_iff : ∀ path, path ∈ paths ↔ ∃ d, directories.find? path = some d ∧ d.name = name

theorem IsIndexOf.unique (h : index.IsIndexOf directories) {other : DirectoryIndex}
    (h' : other.IsIndexOf directories) : index = other := by
  have hnames : index.orderedNames = other.orderedNames :=
    h.ascending.eq_of_mem_iff h'.ascending fun name => (h.mem_iff name).trans (h'.mem_iff name).symm
  have hbyName : index.byName = other.byName :=
    NameMap.ext fun name => Option.ext fun d =>
      (h.find?_iff name d).trans (h'.find?_iff name d).symm
  cases index
  cases other
  cases hnames
  cases hbyName
  rfl

theorem IsLeastConflict.unique {paths paths' : List String} {name' : String}
    (h : IsLeastConflict directories name paths) (h' : IsLeastConflict directories name' paths') :
    name = name' ∧ paths = paths' := by
  obtain rfl := String.le_antisymm (h.least name' h'.shared) (h'.least name h.shared)
  exact ⟨rfl, h.ascending.eq_of_mem_iff h'.ascending fun path =>
    (h.mem_iff path).trans (h'.mem_iff path).symm⟩

theorem not_isShared_iff : ¬IsShared directories name ↔
    (producers directories name).length ≤ 1 := by
  simp only [length_le_one_iff_of_nodup (nodup_producers _ _), mem_producers_iff]
  constructor
  · rintro h p ⟨d, hd, hdn⟩ q ⟨e, he, hen⟩
    by_contra hne
    exact h ⟨p, q, d, e, hne, hd, he, hdn, hen⟩
  · rintro h ⟨p, q, d, e, hne, hd, he, hdn, hen⟩
    exact hne (h p ⟨d, hd, hdn⟩ q ⟨e, he, hen⟩)

theorem isShared_iff : IsShared directories name ↔ 1 < (producers directories name).length := by
  rw [← Nat.not_le, ← not_isShared_iff, not_not]

theorem namedApart_iff_not_isShared :
    NamedApart directories ↔ ∀ name, ¬IsShared directories name := by
  simp only [namedApart_iff_length_producers, not_isShared_iff]

theorem pairwise_producers (directories : NameMap Directory) (name : String) :
    (producers directories name).Pairwise (· < ·) :=
  directories.keys_pairwise.sublist (List.filter_sublist.map Prod.fst)

theorem isIndexOf_of_ok (h : ofDirectories (some directories) = .ok index) :
    index.IsIndexOf directories := by
  obtain ⟨hapart, hascending, hmem⟩ := of_ofDirectories_ok h
  refine ⟨hascending, hmem, fun name d => ?_⟩
  have hbyName : index.byName = NameMap.ofList (directories.values.map fun d => (d.name, d)) := by
    simp only [ofDirectories] at h
    split at h <;> cases h
    rfl
  have hvalue : ∀ n e, (n, e) ∈ directories.values.map (fun d => (d.name, d)) ↔
      ∃ path, directories.find? path = some e ∧ e.name = n := by
    intro n e
    simp only [NameMap.values, List.map_map, List.mem_map, Prod.exists, Function.comp,
      Prod.mk.injEq, NameMap.find?_eq_some_iff]
    constructor
    · rintro ⟨path, d, hd, rfl, rfl⟩
      exact ⟨path, hd, rfl⟩
    · rintro ⟨path, hd, rfl⟩
      exact ⟨path, e, hd, rfl, rfl⟩
  rw [hbyName, ← hvalue]
  constructor
  · exact NameMap.mem_of_find?_ofList
  · intro hd
    refine NameMap.find?_ofList_of_mem hd fun e he => ?_
    obtain ⟨p, hp, hname⟩ := (hvalue name d).1 hd
    obtain ⟨q, hq, hname'⟩ := (hvalue name e).1 he
    obtain rfl := hapart p q d e hp hq (hname.trans hname'.symm)
    exact Option.some.inj (hq.symm.trans hp)

theorem isLeastConflict_of_error (h : ofDirectories (some directories) = .error e) :
    ∃ name, e = .nameConflict name (producers directories name) ∧
      IsLeastConflict directories name (producers directories name) := by
  simp only [ofDirectories] at h
  split at h
  case h_2 => cases h
  case h_1 name hfound =>
    cases h
    have hshared : IsShared directories name :=
      isShared_iff.2 (by simpa using List.find?_some hfound)
    refine ⟨name, rfl, hshared, fun other hother => ?_, pairwise_producers _ _,
      fun path => mem_producers_iff⟩
    have hseveral := isShared_iff.1 hother
    obtain ⟨p, -, d, -, -, hd, -, hname, -⟩ := hother
    exact le_of_find?_ascending (NameMap.keys_pairwise _) hfound other
      (mem_keys_byName.2 ⟨p, d, hd, hname⟩) (decide_eq_true hseveral)

theorem exists_index_iff :
    (∃ index, ofDirectories (some directories) = .ok index) ↔ NamedApart directories := by
  constructor
  · rintro ⟨index, h⟩
    exact (of_ofDirectories_ok h).1
  · intro hapart
    obtain ⟨-, hindex⟩ | ⟨name, hseveral, -⟩ := ofDirectories_cases directories
    · exact hindex
    · exact absurd hapart (not_namedApart_of_producers hseveral)

theorem ofDirectories_eq_ok_iff : ofDirectories (some directories) = .ok index ↔
    NamedApart directories ∧ index.IsIndexOf directories := by
  constructor
  · exact fun h => ⟨(of_ofDirectories_ok h).1, isIndexOf_of_ok h⟩
  · rintro ⟨hapart, hindex⟩
    obtain ⟨other, hother⟩ := exists_index_iff.2 hapart
    rwa [hindex.unique (isIndexOf_of_ok hother)]

theorem ofDirectories_eq_error_iff : ofDirectories (some directories) = .error e ↔
    ∃ name paths, e = .nameConflict name paths ∧ IsLeastConflict directories name paths := by
  constructor
  · intro h
    obtain ⟨name, rfl, hconflict⟩ := isLeastConflict_of_error h
    exact ⟨name, _, rfl, hconflict⟩
  · rintro ⟨name, paths, rfl, hconflict⟩
    cases h : ofDirectories (some directories) with
    | ok index =>
      exact absurd hconflict.shared
        (namedApart_iff_not_isShared.1 (of_ofDirectories_ok h).1 name)
    | error e =>
      obtain ⟨name', rfl, hconflict'⟩ := isLeastConflict_of_error h
      obtain ⟨rfl, rfl⟩ := hconflict.unique hconflict'
      rfl

end DirectoryIndex

namespace NameClaims

variable {c : NameClaims} {l : List (String × Directory)}

/-- The paths of the directories of this name in a list, in its order. -/
def pathsOf (l : List (String × Directory)) (name : String) : List String :=
  (l.filter (·.2.name == name)).map Prod.fst

/-- What a pass has noted after it has gone through `l`. -/
structure Notes (c : NameClaims) (l : List (String × Directory)) : Prop where
  paths_eq : ∀ name,
    c.paths.find? name = (l.find? (·.2.name == name)).map fun _ => pathsOf l name
  first_eq : ∀ name, c.first.find? name = (l.find? (·.2.name == name)).map Prod.snd

theorem notes_empty : empty.Notes [] := ⟨fun _ => rfl, fun _ => rfl⟩

theorem Notes.getD_paths (h : c.Notes l) (name : String) :
    (c.paths.find? name).getD [] = pathsOf l name := by
  rw [h.paths_eq]
  cases hfound : l.find? (·.2.name == name) with
  | some e => rfl
  | none =>
    have hnil : l.filter (·.2.name == name) = [] :=
      List.filter_eq_nil_iff.2 (List.find?_eq_none.1 hfound)
    simp [pathsOf, hnil]

theorem Notes.add (h : c.Notes l) (path : String) (d : Directory) :
    (c.add path d).Notes (l ++ [(path, d)]) where
  paths_eq name := by
    rw [NameClaims.add, NameMap.find?_insert, h.getD_paths, List.find?_append]
    by_cases hname : name = d.name
    · subst hname
      cases hfound : l.find? (·.2.name == d.name) <;> simp [pathsOf]
    · have hother : (d.name == name) = false := by simpa using Ne.symm hname
      rw [if_neg hname, h.paths_eq]
      simp [pathsOf, hother]
  first_eq name := by
    rw [NameClaims.add, NameMap.contains, h.first_eq, List.find?_append]
    by_cases hname : name = d.name
    · subst hname
      cases hfound : l.find? (·.2.name == d.name) <;> simp [h.first_eq, hfound]
    · have hother : (d.name == name) = false := by simpa using Ne.symm hname
      cases hfound : l.find? (·.2.name == d.name) <;> simp [h.first_eq, hname, hother]

/-- Going on with a pass notes what is still to come after what came before. -/
theorem notes_foldl {before : List (String × Directory)} (h : c.Notes before) :
    (l.foldl (fun c e => c.add e.1 e.2) c).Notes (before ++ l) := by
  induction l generalizing c before with
  | nil => simpa using h
  | cons e rest ih => simpa using ih (h.add e.1 e.2)

theorem notes_ofList (l : List (String × Directory)) : (ofList l).Notes l :=
  notes_foldl notes_empty

variable {directories : NameMap Directory} {name : String}

theorem Notes.mem_keys_first (h : c.Notes directories.entries) : name ∈ c.first.keys ↔
    ∃ path d, directories.find? path = some d ∧ d.name = name := by
  rw [NameMap.mem_keys_iff, h.first_eq, ← Option.isSome_iff_exists, Option.isSome_map,
    List.find?_isSome]
  simp [NameMap.find?_eq_some_iff]

theorem Notes.claimed_eq (h : c.Notes directories.entries) : c.claimed =
    c.first.keys.map fun name => (name, DirectoryIndex.producers directories name) := by
  rw [claimed, ← List.filterMap_eq_map]
  refine List.filterMap_congr fun name hname => ?_
  obtain ⟨d, hd⟩ := NameMap.mem_keys_iff.1 hname
  rw [h.first_eq] at hd
  obtain ⟨e, hfound, -⟩ := Option.map_eq_some_iff.1 hd
  rw [h.paths_eq, hfound]
  rfl

theorem Notes.isIndexOf (h : c.Notes directories.entries)
    (hapart : DirectoryIndex.NamedApart directories) :
    DirectoryIndex.IsIndexOf ⟨c.first.keys, c.first⟩ directories where
  ascending := NameMap.keys_pairwise _
  mem_iff _ := h.mem_keys_first
  find?_iff name d := by
    have hfirst : ∀ e, c.first.find? name = some e →
        ∃ path, directories.find? path = some e ∧ e.name = name := by
      intro e he
      rw [h.first_eq] at he
      obtain ⟨⟨path, e⟩, hfound, rfl⟩ := Option.map_eq_some_iff.1 he
      exact ⟨path, NameMap.find?_eq_some_iff.2 (List.mem_of_find?_eq_some hfound),
        by simpa using List.find?_some hfound⟩
    refine ⟨hfirst d, ?_⟩
    rintro ⟨path, hd, hname⟩
    -- the first directory of this name is the only one
    obtain ⟨e, he⟩ := NameMap.mem_keys_iff.1 (h.mem_keys_first.2 ⟨path, d, hd, hname⟩)
    obtain ⟨path', he', hname'⟩ := hfirst e he
    obtain rfl := hapart path path' d e hd he' (hname.trans hname'.symm)
    rw [he, ← he', hd]

/-- A pass over all directories comes to their index. -/
theorem Notes.index_eq (h : c.Notes directories.entries) :
    c.index = DirectoryIndex.ofDirectories (some directories) := by
  have hkeys : c.first.keys =
      (NameMap.ofList (directories.values.map fun d => (d.name, d))).keys :=
    NameMap.keys_eq_of_mem_iff fun name =>
      h.mem_keys_first.trans DirectoryIndex.mem_keys_byName.symm
  have hfind : (c.claimed.find? fun e => e.2.length > 1) =
      ((NameMap.ofList (directories.values.map fun d => (d.name, d))).keys.find?
        fun name => (DirectoryIndex.producers directories name).length > 1).map
          fun name => (name, DirectoryIndex.producers directories name) := by
    rw [h.claimed_eq, hkeys, List.find?_map]
    rfl
  rw [index, hfind]
  cases hfound : (NameMap.ofList (directories.values.map fun d => (d.name, d))).keys.find?
      fun name => (DirectoryIndex.producers directories name).length > 1 with
  | some name =>
    simp [DirectoryIndex.ofDirectories, hfound]
  | none =>
    have hok : ∃ index, DirectoryIndex.ofDirectories (some directories) = .ok index := by
      simp [DirectoryIndex.ofDirectories, hfound]
    obtain ⟨index, hindex⟩ := hok
    have honly := (DirectoryIndex.isIndexOf_of_ok hindex).unique
      (h.isIndexOf (DirectoryIndex.of_ofDirectories_ok hindex).1)
    rw [hindex, honly]
    rfl

end NameClaims

namespace DirectoryIndex

variable {directories : NameMap Directory} {l : List (String × Directory)}

theorem ofUnordered_eq (h : l.Perm directories.entries) :
    ofUnordered l = ofDirectories (some directories) := by
  rw [ofUnordered, NameMap.mergeSort_eq_entries h]
  exact (NameClaims.notes_ofList _).index_eq

/-- Directories have an index exactly if no two of them have one name, and that index has their
names in order and the one directory of each; otherwise the least shared name is reported with the
paths of all directories that have it. In whatever order the directories come, the outcome is this
one. -/
theorem outcome_ofDirectories (directories : NameMap Directory) :
    ((∃ index, ofDirectories (some directories) = .ok index) ↔ NamedApart directories) ∧
      (∀ index, ofDirectories (some directories) = .ok index ↔
        NamedApart directories ∧ index.IsIndexOf directories) ∧
      (∀ e, ofDirectories (some directories) = .error e ↔
        ∃ name paths, e = .nameConflict name paths ∧ IsLeastConflict directories name paths) ∧
      ∀ l, l.Perm directories.entries → ofUnordered l = ofDirectories (some directories) :=
  ⟨exists_index_iff, fun _ => ofDirectories_eq_ok_iff, fun _ => ofDirectories_eq_error_iff,
    fun _ => ofUnordered_eq⟩

/-- A directory of this name, without fields. -/
def named (name : String) : Directory where
  name := name
  entry := ⟨0⟩
  path := .root

/-- Directories of two shared names, the lesser of which comes later. -/
def crossedNames : List (String × Directory) :=
  [("/m/d", named "A"), ("/m/a", named "B"), ("/m/c", named "B"), ("/m/b", named "A")]

theorem outcome_ofDirectories_crossedNames :
    (crossedNames.Perm (NameMap.ofList crossedNames).entries ∧
      IsLeastConflict (NameMap.ofList crossedNames) "A" ["/m/b", "/m/d"]) ∧
    ofUnordered crossedNames = .error (.nameConflict "A" ["/m/b", "/m/d"]) := by
  obtain ⟨-, -, herror, hunordered⟩ := outcome_ofDirectories (NameMap.ofList crossedNames)
  have hperm : crossedNames.Perm (NameMap.ofList crossedNames).entries := by decide +kernel
  have hconflict : ofDirectories (some (NameMap.ofList crossedNames)) =
      .error (.nameConflict "A" ["/m/b", "/m/d"]) := by decide +kernel
  obtain ⟨name, paths, hsame, hleast⟩ := (herror _).1 hconflict
  cases hsame
  exact ⟨⟨hperm, hleast⟩, (hunordered crossedNames hperm).trans hconflict⟩

end DirectoryIndex

end YangBind
