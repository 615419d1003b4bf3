import YangBind.Proofs.Directory.FoldedKey

/-! When the paths of a field are distinct. The alias of a key is the path that a leaf of its name
would have right below the list, so it repeats the path of the leaf on the branch just where that
leaf stands there. The key's own leaf lies further down; its shadow need not. -/

namespace YangBind

namespace Directory

variable {s : Schema} {d : Directory} {key : String} {compress : Bool} {b : Branch}
  {mode : PathMode} {k n : Node s} {keyAlias : Option MappedPath}
  {paths : List MappedPath}

/-- Whether `n` stands where the alias of the key leaf `k` leads: right below the directory, under
the name of `k`. Absolute paths leave out the module, so from a directory that does not lie below a
module the alias leads to the top level. -/
def IsAtAlias (d : Directory) (mode : PathMode) (k n : Node s) : Prop :=
  if mode = .absolute ∧ d.path.length < 2 then n.dataPath = ⟨["", k.name]⟩
  else n.schemaPath = d.path.child k.name

theorem isAtAlias_iff (hd : mode = .relative ∨ 2 ≤ d.path.length) :
    d.IsAtAlias mode k n ↔ n.schemaPath = d.path.child k.name := by
  have hbelow : ¬(mode = .absolute ∧ d.path.length < 2) := by
    rintro ⟨rfl, hlt⟩
    obtain hrel | hle := hd
    · cases hrel
    · omega
  rw [IsAtAlias, if_neg hbelow]

/-- The path of `n` is the alias of `k` exactly where `n` stands at it. -/
theorem path_pathTo_eq_iff (hn : n.schemaPath.isBelow d.path = true) :
    (d.pathTo mode n).path = (d.aliasOf mode k).path ↔ d.IsAtAlias mode k n := by
  obtain ⟨rest, -, hrest⟩ := SchemaPath.isBelow_iff.1 hn
  have hat : n.schemaPath = d.path.child k.name ↔ rest = [k.name] := by
    rw [← SchemaPath.segments_inj, hrest]
    exact List.append_right_inj d.path.segments
  cases mode with
  | relative =>
    rw [isAtAlias_iff (.inl rfl), hat]
    simp [pathTo, aliasOf, SchemaPath.drop, SchemaPath.length, hrest]
  | absolute =>
    by_cases hd : 2 ≤ d.path.length
    · have hdrop : n.schemaPath.segments.drop 2 = d.path.segments.drop 2 ++ rest := by
        rw [hrest, List.drop_append_of_le_length hd]
      rw [isAtAlias_iff (.inr hd), hat]
      simp [pathTo, aliasOf, SchemaPath.drop, SchemaPath.fromBoundary, SchemaPath.child, hdrop]
    · have hnil : d.path.segments.drop 2 = [] :=
        List.drop_eq_nil_of_le (Nat.le_of_not_le hd)
      rw [IsAtAlias, if_pos ⟨rfl, Nat.not_le.1 hd⟩, path_pathTo_absolute]
      simp [aliasOf, SchemaPath.drop, SchemaPath.fromBoundary, SchemaPath.child, hnil]

/-- A key leaf that has an alias lies too far below the list to stand at it. -/
theorem IsFoldedKey.not_isAtAlias (h : d.IsFoldedKey key k)
    (hd : mode = .relative ∨ 2 ≤ d.path.length) : ¬d.IsAtAlias mode k k := by
  rw [isAtAlias_iff hd]
  intro hat
  have hfar := h.is_far
  simp [hat, SchemaPath.child, SchemaPath.length] at hfar

theorem IsFoldedKey.eq (h : d.IsFoldedKey key k) (hn : d.fields.find? key = some n.id) : k = n :=
  Node.id_inj.1 (Option.some.inj (h.is_field.symm.trans hn))

/-- The path of `n` and the alias after it, if the search for one has found it. -/
theorem nodup_pathTo_cons_iff (hn : n.schemaPath.isBelow d.path = true)
    (h : d.listKeyAlias? s key mode = .ok keyAlias) :
    ((d.pathTo mode n :: keyAlias.toList).map MappedPath.path).Nodup ↔
      ¬∃ k : Node s, d.IsFoldedKey key k ∧ d.IsAtAlias mode k n := by
  cases keyAlias with
  | none =>
    have hno : ∀ k : Node s, ¬d.IsFoldedKey key k := fun k hk => by
      simpa using (keyAlias_eq_some_iff h).2 ⟨k, hk, rfl⟩
    simp [hno]
  | some p =>
    obtain ⟨k, hk, rfl⟩ := (keyAlias_eq_some_iff h).1 rfl
    have hkey : ∀ k' : Node s, d.IsFoldedKey key k' ↔ k' = k :=
      fun k' => ⟨fun hk' => hk'.eq hk.is_field, fun heq => heq ▸ hk⟩
    simp [hkey, path_pathTo_eq_iff hn]

/-- The paths of a field are distinct unless folding gives it an alias and its leaf on the branch
stands there. Below a module the primary leaf never does, so only a shadow can repeat the alias. -/
theorem nodup_mappedPaths_iff (h : d.mappedPaths s key compress b mode = .ok paths) :
    ((paths.map MappedPath.path).Nodup ↔ ¬(compress = true ∧ ∃ k n : Node s,
      d.IsFoldedKey key k ∧ (d.branch b).find? key = some n.id ∧ d.IsAtAlias mode k n)) ∧
    (b = .primary → mode = .relative ∨ 2 ≤ d.path.length →
      (paths.map MappedPath.path).Nodup) := by
  have hiff : (paths.map MappedPath.path).Nodup ↔ ¬(compress = true ∧ ∃ k n : Node s,
      d.IsFoldedKey key k ∧ (d.branch b).find? key = some n.id ∧ d.IsAtAlias mode k n) := by
    obtain ⟨hnone, rfl⟩ | ⟨n, keyAlias, hfound, halias, rfl⟩ := mappedPaths_eq_ok h
    · have habsent := (locate_eq_none_iff.1 hnone).1
      simp [habsent]
    · obtain ⟨hfind, hbelow⟩ := locate_eq_some hfound
      cases compress with
      | false =>
        obtain rfl := Except.ok.inj halias
        simp
      | true =>
        rw [if_pos rfl] at halias
        rw [nodup_pathTo_cons_iff hbelow halias]
        simp [hfind, Node.id_inj]
  refine ⟨hiff, fun hb hd => hiff.2 ?_⟩
  rintro ⟨-, k, n, hk, hn, hat⟩
  subst hb
  obtain rfl := hk.eq hn
  exact hk.not_isAtAlias hd hat

/-- The shadow of the key `k` in the container `state` has two paths. -/
theorem nodup_mappedPaths_iff_splitList :
    let d := (splitDirectory.withField "k" (splitNode 6).id).withShadowed "k" (splitNode 8).id
    ∃ own keyAlias, d.mappedPaths splitList "k" true .shadow .relative = .ok [own, keyAlias] ∧
      own.path ≠ keyAlias.path := by
  intro d
  let own : MappedPath := ⟨⟨["state", "k"]⟩, ["m", "m"]⟩
  let keyAlias : MappedPath := ⟨⟨["k"]⟩, ["m"]⟩
  have hpaths : d.mappedPaths splitList "k" true .shadow .relative = .ok [own, keyAlias] := by
    decide +kernel
  have hnodup : ([own, keyAlias].map MappedPath.path).Nodup := by
    rw [(nodup_mappedPaths_iff hpaths).1]
    rintro ⟨-, k, n, -, hn, hat⟩
    have hshadow : (d.branch .shadow).find? "k" = some (splitNode 8).id := by decide +kernel
    obtain rfl := Node.id_inj.1 (Option.some.inj (hshadow.symm.trans hn))
    rw [isAtAlias_iff (.inl rfl)] at hat
    have hlength : (splitNode 8).schemaPath.length = 5 := by decide +kernel
    have hchild : (d.path.child k.name).length = 4 := rfl
    rw [hat, hchild] at hlength
    cases hlength
  exact ⟨own, keyAlias, hpaths, by simpa using hnodup⟩

/-- With the leaf in the list itself as the shadow of the key `k`, its path there is the alias. -/
theorem shadow_repeats_alias :
    let d := (splitDirectory.withField "k" (splitNode 6).id).withShadowed "k" (splitNode 3).id
    (d.mappedPaths splitList "k" true .primary .relative).map (·.map MappedPath.path) =
        .ok [⟨["config", "k"]⟩, ⟨["k"]⟩] ∧
      (d.mappedPaths splitList "k" true .shadow .relative).map (·.map MappedPath.path) =
        .ok [⟨["k"]⟩, ⟨["k"]⟩] ∧
      ¬[(⟨["k"]⟩ : SchemaPath), ⟨["k"]⟩].Nodup := by
  refine ⟨by decide +kernel, by decide +kernel, by simp⟩

end Directory

end YangBind
