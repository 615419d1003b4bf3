import YangBind.Proofs.Directory.FieldPath

/-! When the paths of a field can be told, and what stands in their way where they cannot: an entry
that the schema does not have, or one that does not lie below the directory. The search among the
keys of a list ends at the first hit, so only the entries before it count. -/

namespace YangBind

/-- Whether a path begins with all of `base` and goes on. -/
def SchemaPath.Extends (p base : SchemaPath) : Prop := base.segments <+: p.segments ∧ base ≠ p

theorem bind_eq_error_iff {ε α β : Type} {x : Except ε α} {f : α → Except ε β} {e : ε} :
    (x >>= f) = .error e ↔ x = .error e ∨ ∃ a, x = .ok a ∧ f a = .error e := by
  cases x <;> simp [bind, Except.bind]

namespace Schema

variable {s : Schema} {path : SchemaPath} {e : BindError}

def Has (s : Schema) (i : EntryId) : Prop := ∃ n : Node s, n.id = i

theorem has_id (n : Node s) : s.Has n.id := ⟨n, rfl⟩

theorem require_error {i : EntryId} (h : s.require i = .error e) :
    ¬s.Has i ∧ e = .unknownEntry i := by
  constructor
  · rintro ⟨n, rfl⟩
    cases (Directory.require_id n).symm.trans h
  · unfold require at h
    split at h <;> cases h
    rfl

/-- The entries before the first one that is the node at `path`, or all of them. -/
def idsBefore (s : Schema) (path : SchemaPath) (ids : List EntryId) : List EntryId :=
  ids.takeWhile fun i => (s.node? i).map Node.schemaPath ≠ some path

theorem anyAt_ok_iff {ids : List EntryId} :
    (∃ found, s.anyAt path ids = .ok found) ↔ ∀ i ∈ s.idsBefore path ids, s.Has i := by
  induction ids with
  | nil => simp [anyAt, idsBefore]
  | cons i rest ih =>
    cases hi : s.node? i with
    | none =>
      have hout : ¬s.Has i := fun ⟨n, hn⟩ => by simp [node?_eq_some_iff.2 hn] at hi
      simp [anyAt, require, idsBefore, hi, hout]
    | some n =>
      obtain rfl := node?_eq_some_iff.1 hi
      by_cases hpath : n.schemaPath = path
      · simp [anyAt, Directory.require_id, idsBefore, hi, hpath]
      · have hrest : s.idsBefore path (n.id :: rest) = n.id :: s.idsBefore path rest := by
          simp [idsBefore, hi, hpath]
        simp [anyAt, Directory.require_id, hpath, hrest, ih, has_id]

theorem anyAt_error {ids : List EntryId} (h : s.anyAt path ids = .error e) :
    ∃ i, ¬s.Has i ∧ e = .unknownEntry i := by
  induction ids with
  | nil => cases h
  | cons i rest ih =>
    unfold anyAt at h
    split at h
    case h_1 e' hreq =>
      cases h
      exact ⟨i, require_error hreq⟩
    case h_2 n _ =>
      split at h
      · cases h
      · exact ih h

end Schema

namespace Directory

variable {s : Schema} {d : Directory} {key : String} {compress : Bool} {b : Branch}
  {mode : PathMode} {n : Node s} {e : BindError}

/-- What can go wrong with the entries of a directory. -/
inductive Misplaced (s : Schema) (d : Directory) : BindError → Prop
  | unknownEntry {i : EntryId} (h : ¬s.Has i) : Misplaced s d (.unknownEntry i)
  | invalidPath {n : Node s} (h : ¬n.schemaPath.Extends d.path) :
    Misplaced s d (.invalidPath n.schemaPath d.path)

/-- Whether the search for a leaf among the keys of a list meets no entry that is missing. It is
made only for leaves two steps or more below the list. -/
def CanSeek (s : Schema) (d : Directory) (n : Node s) : Prop :=
  ∀ elems, d.keyElems = some elems → d.path.length + 2 ≤ n.schemaPath.length →
    ∀ i ∈ s.idsBefore n.schemaPath elems, s.Has i

theorem locate_eq_some_iff : d.locate s key b = .ok (some n) ↔
    (d.branch b).find? key = some n.id ∧ n.schemaPath.Extends d.path := by
  constructor
  · exact fun h => (locate_eq_some h).imp_right SchemaPath.isBelow_iff_prefix.1
  · exact fun h => locate_below h.1 (SchemaPath.isBelow_iff_prefix.2 h.2)

theorem locate_eq_none_iff : d.locate s key b = .ok none ↔
    (d.branch b).find? key = none ∧ b = .shadow := by
  constructor
  · intro h
    cases hfound : (d.branch b).find? key with
    | none =>
      cases b with
      | primary => cases (locate_absent_primary hfound).symm.trans h
      | shadow => exact ⟨rfl, rfl⟩
    | some i =>
      unfold locate at h
      simp only [hfound] at h
      split at h
      · cases h
      · split at h <;> cases h
  · rintro ⟨hfound, rfl⟩
    exact locate_absent_shadow hfound

theorem misplaced_of_locate (h : d.locate s key b = .error e)
    (hkey : d.fields.contains key = true) : d.Misplaced s e := by
  unfold locate at h
  split at h
  case h_1 hfound =>
    cases b with
    | primary => simp [NameMap.contains, show d.fields.find? key = none from hfound] at hkey
    | shadow => cases h
  case h_2 i hfound =>
    split at h
    case h_1 e' hreq =>
      obtain ⟨hout, rfl⟩ := Schema.require_error hreq
      cases h
      exact .unknownEntry hout
    case h_2 n _ =>
      split at h
      case isTrue => cases h
      case isFalse hbelow =>
        cases h
        exact .invalidPath fun hn => hbelow (SchemaPath.isBelow_iff_prefix.2 hn)

theorem two_le_length_pathTo : 2 ≤ (d.pathTo .relative n).path.length ↔
    d.path.length + 2 ≤ n.schemaPath.length := by
  simp only [pathTo, SchemaPath.length, SchemaPath.drop, List.length_drop]
  omega

theorem listKeyAlias?_of_locate {elems : List EntryId} (hk : d.keyElems = some elems)
    (h : d.locate s key .primary = .ok (some n)) :
    d.listKeyAlias? s key mode =
      if d.path.length + 2 ≤ n.schemaPath.length then
        (s.anyAt n.schemaPath elems).map fun isKey =>
          if isKey then some (d.aliasOf mode n) else none
      else .ok none := by
  have hcontains : d.fields.contains key = true :=
    Option.isSome_iff_exists.2 ⟨n.id, (locate_eq_some h).1⟩
  have hlen : (d.pathTo .relative n).path.length < 2 ↔
      ¬d.path.length + 2 ≤ n.schemaPath.length := by
    rw [← Nat.not_le, two_le_length_pathTo]
  simp only [listKeyAlias?, hk, hcontains, h, bind, Except.bind, hlen, ite_not]
  split
  · cases s.anyAt n.schemaPath elems with
    | error e => rfl
    | ok isKey => cases isKey <;> rfl
  · rfl

/-- With its primary leaf in place, whether a field has an alias hangs on the search alone. -/
theorem listKeyAlias?_ok_iff (h : d.locate s key .primary = .ok (some n)) :
    (∃ keyAlias, d.listKeyAlias? s key mode = .ok keyAlias) ↔ d.CanSeek s n := by
  cases hk : d.keyElems with
  | none => simp [listKeyAlias?, CanSeek, hk]
  | some elems =>
    rw [listKeyAlias?_of_locate hk h]
    simp only [CanSeek, hk, Option.some.injEq, forall_eq', ← Schema.anyAt_ok_iff]
    split
    case isTrue hfar =>
      cases s.anyAt n.schemaPath elems <;> simp [Except.map, hfar]
    case isFalse hnear => simp [hnear]

theorem misplaced_of_listKeyAlias? (h : d.listKeyAlias? s key mode = .error e) :
    d.Misplaced s e := by
  unfold listKeyAlias? at h
  split at h
  case h_2 => cases h
  case h_1 elems _ hcontains =>
    obtain h | ⟨found, -, h⟩ := bind_eq_error_iff.1 h
    · exact misplaced_of_locate h hcontains
    · split at h
      case h_1 => cases h
      case h_2 n =>
        split at h
        case isTrue => cases h
        case isFalse =>
          obtain h | ⟨isKey, -, h⟩ := bind_eq_error_iff.1 h
          · obtain ⟨i, hout, rfl⟩ := Schema.anyAt_error h
            exact .unknownEntry hout
          · split at h <;> cases h

theorem mappedPaths_of_locate_none (h : d.locate s key b = .ok none) :
    d.mappedPaths s key compress b mode = .ok [] := by
  rw [mappedPaths, h]
  rfl

theorem mappedPaths_of_locate (h : d.locate s key b = .ok (some n)) :
    d.mappedPaths s key compress b mode =
      (if compress then d.listKeyAlias? s key mode else .ok none).map fun keyAlias =>
        d.pathTo mode n :: keyAlias.toList := by
  rw [mappedPaths, h]
  cases compress with
  | false => rfl
  | true => exact bind_pure_comp _ (d.listKeyAlias? s key mode)

/-- What paths that are found are made of. -/
theorem mappedPaths_eq_ok {paths : List MappedPath}
    (h : d.mappedPaths s key compress b mode = .ok paths) :
    d.locate s key b = .ok none ∧ paths = [] ∨ ∃ (n : Node s) (keyAlias : Option MappedPath),
      d.locate s key b = .ok (some n) ∧
      (if compress then d.listKeyAlias? s key mode else .ok none) = .ok keyAlias ∧
      paths = d.pathTo mode n :: keyAlias.toList := by
  obtain ⟨found, hfound, -⟩ := bind_eq_ok_iff.1 h
  cases found with
  | none =>
    rw [mappedPaths_of_locate_none hfound] at h
    exact .inl ⟨hfound, (Except.ok.inj h).symm⟩
  | some n =>
    rw [mappedPaths_of_locate hfound] at h
    obtain ⟨keyAlias, halias, hpaths⟩ := map_eq_ok_iff.1 h
    exact .inr ⟨n, keyAlias, hfound, halias, hpaths.symm⟩

theorem mappedPaths_ok_iff : (∃ paths, d.mappedPaths s key compress b mode = .ok paths) ↔
    d.locate s key b = .ok none ∨ (∃ n : Node s, d.locate s key b = .ok (some n)) ∧
      (compress = true → ∃ keyAlias, d.listKeyAlias? s key mode = .ok keyAlias) := by
  constructor
  · rintro ⟨paths, h⟩
    obtain ⟨hnone, -⟩ | ⟨n, keyAlias, hfound, halias, -⟩ := mappedPaths_eq_ok h
    · exact .inl hnone
    · exact .inr ⟨⟨n, hfound⟩, fun hcompress => ⟨keyAlias, by rwa [if_pos hcompress] at halias⟩⟩
  · rintro (hnone | ⟨⟨n, hfound⟩, halias⟩)
    · exact ⟨[], mappedPaths_of_locate_none hnone⟩
    · rw [mappedPaths_of_locate hfound]
      cases compress with
      | false => exact ⟨_, rfl⟩
      | true =>
        obtain ⟨keyAlias, halias⟩ := halias rfl
        exact ⟨_, by rw [if_pos rfl, halias]; rfl⟩

theorem misplaced_of_mappedPaths (h : d.mappedPaths s key compress b mode = .error e)
    (hkey : d.fields.contains key = true) : d.Misplaced s e := by
  obtain h | ⟨found, -, h⟩ := bind_eq_error_iff.1 h
  · exact misplaced_of_locate h hkey
  · split at h
    case h_1 => cases h
    case h_2 n =>
      dsimp only at h
      split at h
      case isTrue =>
        obtain h | ⟨keyAlias, -, h⟩ := bind_eq_error_iff.1 h
        · exact misplaced_of_listKeyAlias? h
        · cases h
      case isFalse => cases h

end Directory

end YangBind
