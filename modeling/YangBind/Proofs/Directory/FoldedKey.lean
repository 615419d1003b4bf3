import YangBind.Proofs.Directory.PathModules

/-! What folding adds to the paths of a field. The paths without folding stay as they are; where the
field's primary leaf is a key in a folded container, its alias follows them, on either branch the
same one. -/

namespace YangBind

namespace Schema

variable {s : Schema} {path : SchemaPath} {found : Bool}

theorem anyAt_eq_ok {ids : List EntryId} (h : s.anyAt path ids = .ok found) :
    found = true ↔ ∃ e : Node s, e.id ∈ ids ∧ e.schemaPath = path := by
  induction ids with
  | nil =>
    cases h
    simp
  | cons i rest ih =>
    unfold anyAt at h
    split at h
    case h_1 => cases h
    case h_2 n hn =>
      obtain rfl := Directory.require_eq_ok_iff.1 hn
      split at h
      case isTrue hpath =>
        cases h
        exact ⟨fun _ => ⟨n, List.mem_cons_self, hpath⟩, fun _ => rfl⟩
      case isFalse hpath =>
        rw [ih h]
        constructor
        · rintro ⟨e, he, hat⟩
          exact ⟨e, List.mem_cons_of_mem _ he, hat⟩
        · rintro ⟨e, he, hat⟩
          obtain hid | he := List.mem_cons.1 he
          · exact absurd (Node.id_inj.1 hid ▸ hat) hpath
          · exact ⟨e, he, hat⟩

end Schema

namespace Directory

variable {s : Schema} {d : Directory} {key : String} {b : Branch} {mode : PathMode} {n : Node s}
  {keyAlias : Option MappedPath} {paths : List MappedPath}

/-- Whether `n` is the primary leaf of a field of a list, lies two steps or more below it and is
where one of the list's keys is. -/
structure IsFoldedKey (d : Directory) (key : String) (n : Node s) : Prop where
  is_field : d.fields.find? key = some n.id
  is_far : d.path.length + 2 ≤ n.schemaPath.length
  is_key : ∃ elems, d.keyElems = some elems ∧
    ∃ e : Node s, e.id ∈ elems ∧ e.schemaPath = n.schemaPath

theorem locate_of_listKeyAlias? {elems : List EntryId} (hk : d.keyElems = some elems)
    (hfield : d.fields.find? key = some n.id)
    (h : d.listKeyAlias? s key mode = .ok keyAlias) : d.locate s key .primary = .ok (some n) := by
  have hcontains : d.fields.contains key = true := by simp [NameMap.contains, hfield]
  simp only [listKeyAlias?, hk, hcontains] at h
  obtain ⟨found, hfound, -⟩ := bind_eq_ok_iff.1 h
  cases found with
  | none =>
    have habsent := (locate_eq_none_iff.1 hfound).1
    cases habsent.symm.trans hfield
  | some n' =>
    have hid := (locate_eq_some hfound).1.symm.trans hfield
    rw [hfound, Node.id_inj.1 (Option.some.inj hid)]

/-- A search for an alias that ends has found one exactly where there is a folded key. -/
theorem keyAlias_eq_some_iff (h : d.listKeyAlias? s key mode = .ok keyAlias) {p : MappedPath} :
    keyAlias = some p ↔ ∃ n : Node s, d.IsFoldedKey key n ∧ p = d.aliasOf mode n := by
  constructor
  · rintro rfl
    obtain ⟨n, hlocate, hp⟩ := listKeyAlias?_eq_some h
    cases hk : d.keyElems with
    | none => simp [listKeyAlias?, hk] at h
    | some elems =>
      rw [listKeyAlias?_of_locate hk hlocate] at h
      split at h
      case isFalse => cases h
      case isTrue hfar =>
        obtain ⟨isKey, hany, hkey⟩ := map_eq_ok_iff.1 h
        cases isKey with
        | false => cases hkey
        | true =>
          have hat := (Schema.anyAt_eq_ok hany).1 rfl
          exact ⟨n, ⟨(locate_eq_some hlocate).1, hfar, elems, hk, hat⟩, hp⟩
  · rintro ⟨n, hkey, rfl⟩
    obtain ⟨elems, hk, hat⟩ := hkey.is_key
    have hlocate := locate_of_listKeyAlias? hk hkey.is_field h
    rw [listKeyAlias?_of_locate hk hlocate, if_pos hkey.is_far] at h
    obtain ⟨isKey, hany, hfound⟩ := map_eq_ok_iff.1 h
    rw [← hfound, if_pos ((Schema.anyAt_eq_ok hany).2 hat)]

/-- The paths of a branch that has the field are its own one, and after it the alias. -/
theorem mappedPaths_of_mem (h : d.mappedPaths s key true b mode = .ok paths)
    (hkey : key ∈ (d.branch b).keys) :
    ∃ own keyAlias, d.mappedPaths s key false b mode = .ok own ∧
      d.listKeyAlias? s key mode = .ok keyAlias ∧ paths = own ++ keyAlias.toList := by
  obtain ⟨i, hi⟩ := NameMap.mem_keys_iff.1 hkey
  obtain ⟨hnone, -⟩ | ⟨n, keyAlias, hfound, halias, rfl⟩ := mappedPaths_eq_ok h
  · cases (locate_eq_none_iff.1 hnone).1.symm.trans hi
  · rw [if_pos rfl] at halias
    exact ⟨[d.pathTo mode n], keyAlias, mappedPaths_of_locate hfound, halias, rfl⟩

theorem mappedPaths_of_not_mem (h : d.mappedPaths s key true b mode = .ok paths)
    (hkey : key ∉ (d.branch b).keys) :
    d.mappedPaths s key false b mode = .ok [] ∧ paths = [] := by
  obtain ⟨hnone, rfl⟩ | ⟨n, -, hfound, -, -⟩ := mappedPaths_eq_ok h
  · exact ⟨mappedPaths_of_locate_none hnone, rfl⟩
  · exact absurd (NameMap.mem_keys_iff.2 ⟨n.id, (locate_eq_some hfound).1⟩) hkey

/-- Paths with folded containers are those without, and at most one alias after them. It is there
exactly for a folded key on a branch that has the field, bears the name of the key's leaf below the
path of the directory, and is the same on both branches. -/
theorem mappedPaths_folded (h : d.mappedPaths s key true b mode = .ok paths) :
    ∃ own keyAlias, d.mappedPaths s key false b mode = .ok own ∧
      paths = own ++ Option.toList keyAlias ∧
      (keyAlias.isSome ↔ key ∈ (d.branch b).keys ∧ ∃ n : Node s, d.IsFoldedKey key n) ∧
      (∀ p ∈ keyAlias, ∃ n : Node s, d.IsFoldedKey key n ∧
        (mode = .relative → p.path = ⟨[n.name]⟩) ∧
        (mode = .absolute → p.path = ⟨"" :: (d.path.segments.drop 2 ++ [n.name])⟩)) ∧
      ∀ b' paths', key ∈ (d.branch b).keys → key ∈ (d.branch b').keys →
        d.mappedPaths s key true b' mode = .ok paths' →
        ∃ own', d.mappedPaths s key false b' mode = .ok own' ∧
          paths' = own' ++ Option.toList keyAlias := by
  by_cases hkey : key ∈ (d.branch b).keys
  · obtain ⟨own, keyAlias, hown, halias, hpaths⟩ := mappedPaths_of_mem h hkey
    refine ⟨own, keyAlias, hown, hpaths, ?_, fun p hp => ?_, fun b' paths' _ hkey' h' => ?_⟩
    · simp only [Option.isSome_iff_exists, keyAlias_eq_some_iff halias, hkey, true_and]
      exact ⟨fun ⟨_, n, hn, _⟩ => ⟨n, hn⟩, fun ⟨n, hn⟩ => ⟨_, n, hn, rfl⟩⟩
    · obtain ⟨n, hn, rfl⟩ := (keyAlias_eq_some_iff halias).1 hp
      refine ⟨n, hn, ?_, ?_⟩
      · rintro rfl
        rfl
      · rintro rfl
        rfl
    · obtain ⟨own', keyAlias', hown', halias', hpaths'⟩ := mappedPaths_of_mem h' hkey'
      obtain rfl := Except.ok.inj (halias.symm.trans halias')
      exact ⟨own', hown', hpaths'⟩
  · obtain ⟨hown, rfl⟩ := mappedPaths_of_not_mem h hkey
    exact ⟨[], none, hown, rfl, by simp [hkey], nofun, fun _ _ hkey' => absurd hkey' hkey⟩

theorem mappedPaths_folded_splitList :
    let d := (splitDirectory.withField "k" (splitNode 6).id).withShadowed "k" (splitNode 8).id
    let real : MappedPath := ⟨⟨["", "l", "state", "k"]⟩, ["", "m", "m", "m"]⟩
    let keyAlias : MappedPath := ⟨⟨["", "l", "k"]⟩, ["", "m", "m"]⟩
    d.mappedPaths splitList "k" true .shadow .absolute = .ok [real, keyAlias] ∧
      d.mappedPaths splitList "k" false .shadow .absolute = .ok [real] ∧
      (∃ n : Node splitList, d.IsFoldedKey "k" n ∧
        keyAlias.path = ⟨"" :: (d.path.segments.drop 2 ++ [n.name])⟩) ∧
      ∀ paths, d.mappedPaths splitList "k" true .primary .absolute = .ok paths →
        ∃ own, d.mappedPaths splitList "k" false .primary .absolute = .ok own ∧
          paths = own ++ [keyAlias] := by
  intro d real keyAlias
  have hpaths : d.mappedPaths splitList "k" true .shadow .absolute = .ok [real, keyAlias] := by
    decide +kernel
  have hreal : d.mappedPaths splitList "k" false .shadow .absolute = .ok [real] := by
    decide +kernel
  obtain ⟨own, found, hown, happend, -, hpath, hboth⟩ := mappedPaths_folded hpaths
  obtain rfl := Except.ok.inj (hreal.symm.trans hown)
  have hfound : found = some keyAlias := by
    cases found with
    | none => cases happend
    | some p =>
      cases happend
      rfl
  subst hfound
  obtain ⟨n, hn, -, habsolute⟩ := hpath keyAlias rfl
  refine ⟨hpaths, hreal, ⟨n, hn, habsolute rfl⟩, fun paths h => ?_⟩
  exact hboth .primary paths (by decide +kernel) (by decide +kernel) h

end Directory

end YangBind
