import YangBind.Proofs.Directory.KeyAlias

/-! The modules of mapped paths. A segment and its module are read off the data ancestry of one
node, so a mapped path is a list of pairs: a stretch of the ancestry of the leaf it stands for, and
for an alias the ancestry of the list with the key leaf at its end. -/

namespace YangBind

variable {s : Schema}

namespace Node

/-- The name of a node with the module that instantiates it. -/
def label (n : Node s) : String × String := (n.name, n.module)

@[simp] theorem fst_comp_label : Prod.fst ∘ @label s = name := rfl

@[simp] theorem snd_comp_label : Prod.snd ∘ @label s = module := rfl

/-- The segments of the path of `n` with their modules. -/
def labels (n : Node s) : List (String × String) := ("", "") :: n.dataAncestry.map label

theorem map_fst_labels (n : Node s) : n.labels.map Prod.fst = n.schemaPath.segments := by
  simp [labels, schemaPath]

theorem map_snd_labels (n : Node s) : n.labels.map Prod.snd = n.pathModules := by
  simp [labels, pathModules]

end Node

namespace MappedPath

def labels (p : MappedPath) : List (String × String) := p.path.segments.zip p.modules

def ofLabels (l : List (String × String)) : MappedPath := ⟨⟨l.map Prod.fst⟩, l.map Prod.snd⟩

@[simp] theorem labels_ofLabels (l : List (String × String)) : (ofLabels l).labels = l := by
  simp [labels, ofLabels, List.zip_map']

theorem length_modules_ofLabels (l : List (String × String)) :
    (ofLabels l).modules.length = (ofLabels l).path.length := by
  simp [ofLabels, SchemaPath.length]

end MappedPath

namespace Directory

variable {d : Directory} {key : String} {compress : Bool} {b : Branch} {mode : PathMode}

theorem listKeyAlias?_eq_some {p : MappedPath} (h : d.listKeyAlias? s key mode = .ok (some p)) :
    ∃ n : Node s, d.locate s key .primary = .ok (some n) ∧ p = d.aliasOf mode n := by
  unfold listKeyAlias? at h
  split at h
  case h_2 => cases h
  case h_1 =>
    obtain ⟨found, hfound, h⟩ := bind_eq_ok_iff.1 h
    split at h
    case h_1 => cases h
    case h_2 n =>
      split at h
      case isTrue => cases h
      case isFalse =>
        obtain ⟨isKey, -, h⟩ := bind_eq_ok_iff.1 h
        split at h <;> cases h
        exact ⟨n, hfound, rfl⟩

/-- Paths that are found are that of the leaf on the branch, and after it at most the alias. -/
theorem mappedPaths_eq_cons {first : MappedPath} {rest : List MappedPath}
    (h : d.mappedPaths s key compress b mode = .ok (first :: rest)) :
    (∃ n : Node s, d.locate s key b = .ok (some n) ∧ first = d.pathTo mode n) ∧
      ∃ keyAlias : Option MappedPath, rest = keyAlias.toList ∧
        ∀ p ∈ keyAlias, ∃ n : Node s, d.locate s key .primary = .ok (some n) ∧
          p = d.aliasOf mode n := by
  obtain ⟨-, hnil⟩ | ⟨n, keyAlias, hfound, halias, hpaths⟩ := mappedPaths_eq_ok h
  · cases hnil
  · cases hpaths
    refine ⟨⟨n, hfound, rfl⟩, keyAlias, rfl, fun p hp => ?_⟩
    split at halias
    case isTrue => exact listKeyAlias?_eq_some (Option.mem_def.1 hp ▸ halias)
    case isFalse => cases halias.trans (congrArg Except.ok hp)

/-- What the path of `n` has below the directory, or below its module. -/
def ownLabels (d : Directory) (mode : PathMode) (n : Node s) : List (String × String) :=
  match mode with
  | .relative => n.labels.drop d.path.length
  | .absolute => ("", "") :: (n.dataAncestry.drop 1).map Node.label

/-- A key leaf `n` alone, or at the end of what its path has as far as the directory. -/
def aliasLabels (d : Directory) (mode : PathMode) (n : Node s) : List (String × String) :=
  match mode with
  | .relative => [n.label]
  | .absolute => ("", "") :: ((n.labels.take d.path.length).drop 2 ++ [n.label])

theorem pathTo_eq_ofLabels (d : Directory) (mode : PathMode) (n : Node s) :
    d.pathTo mode n = .ofLabels (d.ownLabels mode n) := by
  cases mode with
  | relative =>
    simp [pathTo, ownLabels, MappedPath.ofLabels, SchemaPath.drop, Node.map_fst_labels,
      Node.map_snd_labels]
  | absolute =>
    simp [pathTo, ownLabels, MappedPath.ofLabels, SchemaPath.drop, SchemaPath.fromBoundary,
      Node.schemaPath, Node.pathModules]

/-- The names of the list's own segments are read off the directory, their modules off the key leaf;
they belong together since the leaf lies below the list. -/
theorem aliasOf_eq_ofLabels {n : Node s} (mode : PathMode)
    (h : n.schemaPath.isBelow d.path = true) :
    d.aliasOf mode n = .ofLabels (d.aliasLabels mode n) := by
  cases mode with
  | relative => rfl
  | absolute =>
    obtain ⟨rest, -, hrest⟩ := SchemaPath.isBelow_iff.1 h
    have hpath : (n.labels.take d.path.length).map Prod.fst = d.path.segments := by
      rw [List.map_take, Node.map_fst_labels, hrest]
      exact List.take_left
    simp [aliasOf, aliasLabels, MappedPath.ofLabels, SchemaPath.drop, SchemaPath.child,
      SchemaPath.fromBoundary, hpath, Node.map_snd_labels, Node.label]

/-- A list whose key refers to a leaf in a container that another module adds inside a choice. -/
def augmentedList : Schema := (Draft.empty.run [
  .module "a",
  .add ⟨0⟩ (.list "l" ["k"]),
  .add ⟨1⟩ (.leafref "k" "../config/k"),
  .add ⟨1⟩ (.choice "c"),
  .add ⟨3⟩ { EntrySpec.container "config" with module := some "d" },
  .add ⟨4⟩ (.leaf "k" "string")]).2.schema

theorem finished_augmentedList : augmentedList.Finished := Schema.finished_run (by decide +kernel)

def augmentedDirectory : Directory where
  name := "L"
  entry := ⟨1⟩
  path := ⟨["", "a", "l"]⟩
  fields := .ofList [("k", ⟨5⟩)]
  keyElems := some [⟨5⟩]

def augmentedPaths : List MappedPath := [
  ⟨⟨["", "l", "config", "k"]⟩, ["", "a", "d", "d"]⟩,
  ⟨⟨["", "l", "k"]⟩, ["", "a", "d"]⟩]

/-- The segments of mapped paths with their modules. The path of the leaf is what its data ancestry
has after the directory, or after the module; the alias is the key leaf, alone or after the part of
its data ancestry that the directory's path covers. -/
theorem labels_of_mappedPaths (hs : s.Finished) {paths : List MappedPath}
    (h : d.mappedPaths s key compress b mode = .ok paths) :
    paths.length ≤ 2 ∧ (∀ p ∈ paths, p.modules.length = p.path.length) ∧
      ∀ first rest, paths = first :: rest →
        (∃ n : Node s, (d.branch b).find? key = some n.id ∧
          n.dataAncestry.head? = some n.root ∧ n.root.kind = .module ∧
          first.labels = d.ownLabels mode n) ∧
        ∀ keyAlias ∈ rest, ∃ n : Node s, (d.branch .primary).find? key = some n.id ∧
          keyAlias.labels = d.aliasLabels mode n := by
  have hr := hs.isRooted
  cases paths with
  | nil => simp
  | cons first rest =>
    obtain ⟨⟨n, hn, rfl⟩, keyAlias, rfl, halias⟩ := mappedPaths_eq_cons h
    have hroot := Node.kind_of_root hr (Node.parent?_root n)
    have haliases : ∀ p ∈ keyAlias.toList, ∃ n : Node s,
        (d.branch .primary).find? key = some n.id ∧ p = .ofLabels (d.aliasLabels mode n) := by
      intro p hp
      obtain ⟨n, hn, rfl⟩ := halias p (Option.mem_toList.1 hp)
      obtain ⟨hfound, hbelow⟩ := locate_eq_some hn
      exact ⟨n, hfound, aliasOf_eq_ofLabels mode hbelow⟩
    rw [pathTo_eq_ofLabels]
    refine ⟨?_, ?_, ?_⟩
    · cases keyAlias <;> simp
    · intro p hp
      obtain rfl | hp := List.mem_cons.1 hp
      · exact MappedPath.length_modules_ofLabels _
      · obtain ⟨n, -, rfl⟩ := haliases p hp
        exact MappedPath.length_modules_ofLabels _
    · rintro _ _ ⟨rfl, rfl⟩
      constructor
      · have hhead := Node.head?_dataAncestry_eq_root hr n
        exact ⟨n, (locate_eq_some hn).1, hhead, hroot, MappedPath.labels_ofLabels _⟩
      · intro p hp
        obtain ⟨n, hfound, rfl⟩ := haliases p hp
        exact ⟨n, hfound, MappedPath.labels_ofLabels _⟩

theorem labels_of_mappedPaths_augmentedList :
    augmentedDirectory.mappedPaths augmentedList "k" true .primary .absolute = .ok augmentedPaths ∧
      (∃ n : Node augmentedList, augmentedDirectory.fields.find? "k" = some n.id ∧
        n.dataAncestry.head? = some n.root ∧ n.root.kind = .module ∧
        [("", ""), ("l", "a"), ("config", "d"), ("k", "d")] =
          augmentedDirectory.ownLabels .absolute n) ∧
      ∃ n : Node augmentedList, augmentedDirectory.fields.find? "k" = some n.id ∧
        [("", ""), ("l", "a"), ("k", "d")] = augmentedDirectory.aliasLabels .absolute n := by
  have hpaths : augmentedDirectory.mappedPaths augmentedList "k" true .primary .absolute =
      .ok augmentedPaths := by
    decide +kernel
  obtain ⟨-, -, hlabels⟩ := labels_of_mappedPaths finished_augmentedList hpaths
  obtain ⟨hfirst, halias⟩ := hlabels _ _ rfl
  exact ⟨hpaths, hfirst, halias _ (List.mem_singleton_self _)⟩

end Directory

end YangBind
