import Mathlib.Data.List.Sort
import YangBind.Mapper.CamelCase
import YangBind.Proofs.Directory.Index
import YangBind.Proofs.Ir.Compilation
import YangBind.Schema.Draft

/-! The listings of a generated representation: its directories in order of their names, their paths
in the same order, and the directory of a name. Names are told apart before anything is compiled and
a compiled directory keeps its name, so the listings fit together. -/

namespace YangBind

namespace Ir

variable {ir : Ir} {path name : String} {parsed : CompiledDirectory}

/-- Whether the names of a representation are those of its directories, which have one each. -/
structure IsIndexed (ir : Ir) : Prop where
  ascending : ir.orderedNames.Pairwise (· < ·)
  mem_iff : ∀ {name}, name ∈ ir.orderedNames ↔
    ∃ path parsed, ir.directories.find? path = some parsed ∧ parsed.name = name
  path_eq : ∀ {p q a b}, ir.directories.find? p = some a → ir.directories.find? q = some b →
    a.name = b.name → p = q

theorem directoryByName?_eq_some (h : ir.IsIndexed)
    (hparsed : ir.directories.find? path = some parsed) :
    ir.directoryByName? parsed.name = some parsed := by
  have hmem : parsed ∈ ir.directories.values :=
    List.mem_map.2 ⟨(path, parsed), NameMap.find?_eq_some_iff.1 hparsed, rfl⟩
  cases hfound : ir.directoryByName? parsed.name with
  | none => simpa using List.find?_eq_none.1 hfound parsed hmem
  | some other =>
    have hname : other.name = parsed.name := by simpa using List.find?_some hfound
    obtain ⟨⟨q, _⟩, hother, rfl⟩ := List.mem_map.1 (List.mem_of_find?_eq_some hfound)
    have hq := NameMap.find?_eq_some_iff.2 hother
    rw [h.path_eq hq hparsed hname] at hq
    exact hq.symm.trans hparsed

theorem directoryByName?_eq_none (h : ir.IsIndexed) (hname : name ∉ ir.orderedNames) :
    ir.directoryByName? name = none := by
  refine List.find?_eq_none.2 fun parsed hparsed heq => hname (h.mem_iff.2 ?_)
  obtain ⟨⟨path, _⟩, hentry, rfl⟩ := List.mem_map.1 hparsed
  exact ⟨path, _, NameMap.find?_eq_some_iff.2 hentry, by simpa using heq⟩

def sortedEntries (ir : Ir) : List (String × CompiledDirectory) :=
  ir.directories.entries.mergeSort fun a b => a.2.name ≤ b.2.name

theorem orderedDirectoryPaths_eq (ir : Ir) :
    ir.orderedDirectoryPaths = ir.sortedEntries.map Prod.fst := rfl

theorem perm_sortedEntries (ir : Ir) : ir.sortedEntries.Perm ir.directories.entries :=
  List.mergeSort_perm _ _

theorem mem_sortedEntries : (path, parsed) ∈ ir.sortedEntries ↔
    ir.directories.find? path = some parsed := by
  rw [NameMap.find?_eq_some_iff]
  exact ir.perm_sortedEntries.mem_iff

theorem pairwise_sortedEntries (ir : Ir) :
    ir.sortedEntries.Pairwise fun a b => a.2.name ≤ b.2.name :=
  NameMap.pairwise_mergeSort_by (·.2.name) ir.directories.entries

theorem map_name_sortedEntries (h : ir.IsIndexed) :
    ir.sortedEntries.map (·.2.name) = ir.orderedNames := by
  have hnodup : (ir.sortedEntries.map (·.2.name)).Nodup := by
    rw [(ir.perm_sortedEntries.map _).nodup_iff]
    refine List.pairwise_map.2 (ir.directories.ascending.imp_of_mem ?_)
    intro a b ha hb hlt hname
    have hpath := h.path_eq (NameMap.find?_eq_some_iff.2 ha) (NameMap.find?_eq_some_iff.2 hb) hname
    exact String.lt_irrefl _ (hpath ▸ hlt)
  have hascending : (ir.sortedEntries.map (·.2.name)).Pairwise (· < ·) := by
    refine List.pairwise_map.2 (List.Pairwise.imp ?_
      (ir.pairwise_sortedEntries.and (List.pairwise_map.1 hnodup)))
    rintro a b ⟨hle, hne⟩
    exact NameMap.lt_of_not_lt_of_ne (String.not_lt.2 hle) hne.symm
  refine hascending.eq_of_mem_iff h.ascending fun name => ?_
  simp only [h.mem_iff, List.mem_map, Prod.exists, mem_sortedEntries]

end Ir

namespace Mapper

variable {s : Schema} {m : Mapper} {opts : IrOptions} {directories : NameMap Directory} {ir : Ir}

/-- Two containers, of which the second one has the smaller directory name. -/
def crossedContainers : Schema := (Draft.empty.run [
  .module "m",
  .add ⟨0⟩ (.container "a"),
  .add ⟨1⟩ (.leaf "x" "string"),
  .add ⟨0⟩ (.container "b"),
  .add ⟨3⟩ (.leaf "y" "string")]).2.schema

def crossedDirectories : NameMap Directory := .ofList [
  ("/m/a", {
    name := "Late"
    entry := ⟨1⟩
    path := ⟨["", "m", "a"]⟩
    fields := .ofList [("x", ⟨2⟩)] }),
  ("/m/b", {
    name := "Early"
    entry := ⟨3⟩
    path := ⟨["", "m", "b"]⟩
    fields := .ofList [("y", ⟨4⟩)] })]

def generateCrossed : Except BindError Ir :=
  (CamelCase.ofEnums []).mapper.generate crossedContainers crossedDirectories {}

theorem generate_eq_ok (h : m.generate s directories opts = .ok ir) :
    (∃ index, DirectoryIndex.ofDirectories (some directories) = .ok index ∧
      ir.orderedNames = index.orderedNames) ∧
      m.compile s directories opts = .ok ir.directories := by
  obtain ⟨index, hindex, h⟩ := Traced.outcome_bind_eq_ok_iff.1 h
  obtain ⟨compiled, hcompiled, h⟩ := Traced.outcome_bind_eq_ok_iff.1 h
  cases h
  exact ⟨⟨index, hindex, rfl⟩, hcompiled⟩

theorem isIndexed_of_generate (h : m.generate s directories opts = .ok ir) : ir.IsIndexed := by
  obtain ⟨⟨index, hindex, hnames⟩, hcompile⟩ := generate_eq_ok h
  obtain ⟨hapart, hascending, hmem⟩ := DirectoryIndex.of_ofDirectories_ok hindex
  have hsource : ∀ {path parsed}, ir.directories.find? path = some parsed →
      ∃ d, directories.find? path = some d ∧ parsed.name = d.name := by
    intro path parsed hparsed
    obtain ⟨d, hd, hdir⟩ := exists_of_compile_find? hcompile hparsed
    exact ⟨d, hd, name_of_compileDirectory hdir⟩
  constructor
  case ascending => exact hnames ▸ hascending
  case mem_iff =>
    intro name
    rw [hnames, hmem]
    constructor
    · rintro ⟨path, d, hd, rfl⟩
      obtain ⟨parsed, hparsed, hfind⟩ := compile_find? hcompile hd
      exact ⟨path, parsed, hfind, name_of_compileDirectory hparsed⟩
    · rintro ⟨path, parsed, hparsed, rfl⟩
      obtain ⟨d, hd, hname⟩ := hsource hparsed
      exact ⟨path, d, hd, hname.symm⟩
  case path_eq =>
    intro p q a b ha hb hname
    obtain ⟨d, hd, had⟩ := hsource ha
    obtain ⟨e, he, hbe⟩ := hsource hb
    exact hapart p q d e hd he (by rw [← had, hname, hbe])

/-- The names of the directories ascend; the paths in the order of the names lead to the directories
of these names, which are the ones found by name, and no other name is found. -/
theorem listings_of_generate (h : m.generate s directories opts = .ok ir) :
    ir.orderedNames.Pairwise (· < ·) ∧
    ir.directories.keys = directories.keys ∧
    ir.orderedDirectoryPaths.length = ir.orderedNames.length ∧
    (∀ (i : Nat) path name, ir.orderedDirectoryPaths[i]? = some path →
      ir.orderedNames[i]? = some name → ∃ parsed, ir.directories.find? path = some parsed ∧
        parsed.name = name ∧ ir.directoryByName? name = some parsed) ∧
    ∀ name, name ∉ ir.orderedNames → ir.directoryByName? name = none := by
  have hindexed := isIndexed_of_generate h
  have hnames := Ir.map_name_sortedEntries hindexed
  refine ⟨hindexed.ascending, keys_of_compile (generate_eq_ok h).2, ?_,
    fun i path name hpath hname => ?_, fun name => Ir.directoryByName?_eq_none hindexed⟩
  · rw [Ir.orderedDirectoryPaths_eq, ← hnames, List.length_map, List.length_map]
  · rw [Ir.orderedDirectoryPaths_eq, List.getElem?_map, Option.map_eq_some_iff] at hpath
    obtain ⟨⟨_, parsed⟩, hentry, rfl⟩ := hpath
    rw [← hnames, List.getElem?_map, hentry, Option.map_some, Option.some.injEq] at hname
    subst hname
    have hparsed := Ir.mem_sortedEntries.1 (List.mem_of_getElem? hentry)
    exact ⟨parsed, hparsed, rfl, Ir.directoryByName?_eq_some hindexed hparsed⟩

theorem listings_of_generate_crossed :
    ∃ ir, generateCrossed = .ok ir ∧ ir.orderedNames = ["Early", "Late"] ∧
      ir.orderedDirectoryPaths = ["/m/b", "/m/a"] ∧
      (∃ parsed, ir.directories.find? "/m/a" = some parsed ∧ parsed.name = "Late" ∧
        ir.directoryByName? "Late" = some parsed) ∧
      ir.directoryByName? "Other" = none := by
  have hrun : generateCrossed.toOption.map (fun ir =>
      (ir.orderedNames, ir.directories.entries.map fun e => (e.1, e.2.name))) =
        some (["Early", "Late"], [("/m/a", "Late"), ("/m/b", "Early")]) := by
    decide +kernel
  obtain ⟨ir, hir, hrun⟩ := Option.map_eq_some_iff.1 hrun
  obtain ⟨hnames, hentries⟩ := Prod.mk.inj hrun
  have hok := toOption_eq_some_iff.1 hir
  have hsorted : ir.sortedEntries.map (fun e => (e.1, e.2.name)) =
      [("/m/b", "Early"), ("/m/a", "Late")] := by
    rw [Ir.sortedEntries, List.map_mergeSort (s := fun a b => a.2 ≤ b.2) (by simp), hentries]
    simp [List.mergeSort]
  have hpaths : ir.orderedDirectoryPaths = ["/m/b", "/m/a"] := by
    rw [Ir.orderedDirectoryPaths_eq]
    simpa [Function.comp_def] using congrArg (List.map Prod.fst) hsorted
  obtain ⟨-, -, -, hat, hother⟩ := listings_of_generate hok
  exact ⟨ir, hok, hnames, hpaths, hat 1 "/m/a" "Late" (by simp [hpaths]) (by simp [hnames]),
    hother "Other" (by simp [hnames])⟩

end Mapper

end YangBind
