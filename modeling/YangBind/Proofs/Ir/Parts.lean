import YangBind.Proofs.Directory.PathOutcome
import YangBind.Proofs.Ir.Listing

/-! A compilation in parts. Each directory can be compiled alone: the whole succeeds if all of the
parts do, and then it is the union of them; otherwise it fails as the first part that fails, in the
order of the paths. Generation adds to this that no two directories may have one name, which is
looked at before anything is compiled. -/

namespace YangBind

namespace NameMap

variable {α : Type} {m : NameMap α}

/-- The map of one entry. -/
def single (k : String) (x : α) : NameMap α := ⟨[(k, x)], List.pairwise_singleton _ _⟩

@[simp] theorem find?_single (k j : String) (x : α) :
    (single k x).find? j = if j = k then some x else none :=
  lookup_cons j k x []

/-- The entries before one of them are those of the smaller keys. -/
theorem mem_before_iff {before after : List (String × α)} {k : String} {x : α}
    (h : m.entries = before ++ (k, x) :: after) {e : String × α} :
    e ∈ before ↔ m.find? e.1 = some e.2 ∧ e.1 < k := by
  have hascending := m.ascending
  rw [h, List.pairwise_append, List.pairwise_cons] at hascending
  obtain ⟨-, ⟨hafter, -⟩, hbefore⟩ := hascending
  rw [find?_eq_some_iff, h, List.mem_append, List.mem_cons]
  constructor
  · exact fun he => ⟨.inl he, hbefore e he (k, x) List.mem_cons_self⟩
  · rintro ⟨he | he | he, hlt⟩
    · exact he
    · exact absurd ((congrArg Prod.fst he : e.1 = k) ▸ hlt) (String.lt_irrefl _)
    · exact absurd (String.lt_trans hlt (hafter e he)) (String.lt_irrefl _)

end NameMap

namespace Traced

variable {α β : Type} {f : α → Traced (List β)} {l : List α} {e : BindError}

theorem outcome_collect_cons (f : α → Traced (List β)) (a : α) (rest : List α) :
    (collect f (a :: rest)).outcome =
      (f a).outcome.bind fun bs => (collect f rest).outcome.map (bs ++ ·) := by
  rw [collect, outcome_bind]
  refine congrArg _ (funext fun bs => ?_)
  rw [outcome_bind]
  cases (collect f rest).outcome <;> rfl

/-- A pass over a list fails as the first of its elements that fails. -/
theorem outcome_collect_eq_error_iff : (collect f l).outcome = .error e ↔
    ∃ before a after, l = before ++ a :: after ∧ (f a).outcome = .error e ∧
      ∀ b ∈ before, ∃ bs, (f b).outcome = .ok bs := by
  induction l with
  | nil => simp [collect]
  | cons a rest ih =>
    rw [outcome_collect_cons]
    cases ha : (f a).outcome with
    | error e' =>
      constructor
      · rintro ⟨⟩
        exact ⟨[], a, rest, rfl, ha, nofun⟩
      · rintro ⟨before, b, after, hsplit, hb, hbefore⟩
        cases before with
        | nil =>
          cases hsplit
          exact ha.symm.trans hb
        | cons c before =>
          cases hsplit
          obtain ⟨bs, hbs⟩ := hbefore a List.mem_cons_self
          cases ha.symm.trans hbs
    | ok bs =>
      refine (map_eq_error_iff.trans ih).trans ⟨?_, ?_⟩
      · rintro ⟨before, b, after, rfl, hb, hbefore⟩
        exact ⟨a :: before, b, after, rfl, hb, List.forall_mem_cons.2 ⟨⟨bs, ha⟩, hbefore⟩⟩
      · rintro ⟨before, b, after, hsplit, hb, hbefore⟩
        cases before with
        | nil =>
          cases hsplit
          cases ha.symm.trans hb
        | cons c before =>
          cases hsplit
          exact ⟨before, b, after, rfl, hb, (List.forall_mem_cons.1 hbefore).2⟩

/-- One element of a keyed pass. -/
theorem outcome_entry (k : String) (x : Traced β) :
    (do return [(k, ← x)] : Traced (List (String × β))).outcome =
      x.outcome.map fun b => [(k, b)] := by
  change (x.bind fun b => ofExcept (.ok [(k, b)])).outcome = _
  rw [outcome_bind]
  cases x.outcome <;> rfl

theorem outcome_collectBy_eq_error_iff {keyOf : α → String} {f : α → Traced β} :
    (collectBy keyOf f l).outcome = .error e ↔
      ∃ before a after, l = before ++ a :: after ∧ (f a).outcome = .error e ∧
        ∀ b ∈ before, ∃ x, (f b).outcome = .ok x := by
  have hok : ∀ a, (∃ bs, (f a).outcome.map (fun x => [(keyOf a, x)]) = .ok bs) ↔
      ∃ x, (f a).outcome = .ok x := by
    intro a
    simp only [map_eq_ok_iff]
    exact exists_comm.trans (by simp)
  simp only [collectBy, outcome_collect_eq_error_iff, outcome_entry, map_eq_error_iff, hok]

end Traced

namespace Mapper

variable {s : Schema} {m : Mapper} {directories : NameMap Directory} {opts : IrOptions}
  {path : String} {d : Directory} {e : BindError}

theorem compile_eq (m : Mapper) (s : Schema) (directories : NameMap Directory)
    (opts : IrOptions) : m.compile s directories opts =
      (Traced.collectBy Prod.fst (fun e => m.compileDirectory s opts e.2)
        directories.entries).outcome.map NameMap.ofList := by
  change (Traced.bind _ _).outcome = _
  rw [Traced.outcome_bind]
  rfl

theorem compile_single (m : Mapper) (s : Schema) (path : String) (d : Directory)
    (opts : IrOptions) : m.compile s (.single path d) opts =
      (m.compileDirectory s opts d).outcome.map (NameMap.single path) := by
  rw [compile_eq, NameMap.single, Traced.collectBy, Traced.outcome_collect_cons,
    Traced.outcome_entry]
  cases (m.compileDirectory s opts d).outcome <;> rfl

/-- Directories fail as the one of the least path among those that fail. -/
theorem compile_eq_error_iff : m.compile s directories opts = .error e ↔
    ∃ path d, directories.find? path = some d ∧ (m.compileDirectory s opts d).outcome = .error e ∧
      ∀ q d', q < path → directories.find? q = some d' →
        ∃ parsed, (m.compileDirectory s opts d').outcome = .ok parsed := by
  rw [compile_eq, map_eq_error_iff, Traced.outcome_collectBy_eq_error_iff]
  constructor
  · rintro ⟨before, ⟨path, d⟩, after, hsplit, herror, hbefore⟩
    refine ⟨path, d, ?_, herror, fun q d' hlt hd' => ?_⟩
    · rw [NameMap.find?_eq_some_iff, hsplit]
      exact List.mem_append_right _ List.mem_cons_self
    · exact hbefore (q, d') ((NameMap.mem_before_iff hsplit).2 ⟨hd', hlt⟩)
  · rintro ⟨path, d, hd, herror, hsmaller⟩
    obtain ⟨before, after, hsplit⟩ := List.append_of_mem (NameMap.find?_eq_some_iff.1 hd)
    refine ⟨before, (path, d), after, hsplit, herror, fun e he => ?_⟩
    obtain ⟨hfound, hlt⟩ := (NameMap.mem_before_iff hsplit).1 he
    exact hsmaller e.1 e.2 hlt hfound

theorem exists_compile_ok_iff : (∃ out, m.compile s directories opts = .ok out) ↔
    ∀ path d, directories.find? path = some d →
      ∃ parsed, (m.compileDirectory s opts d).outcome = .ok parsed := by
  constructor
  · rintro ⟨out, hout⟩ path d hd
    obtain ⟨parsed, hparsed, -⟩ := compile_find? hout hd
    exact ⟨parsed, hparsed⟩
  · intro hall
    cases h : m.compile s directories opts with
    | ok out => exact ⟨out, rfl⟩
    | error e =>
      obtain ⟨path, d, hd, herror, -⟩ := compile_eq_error_iff.1 h
      obtain ⟨parsed, hparsed⟩ := hall path d hd
      cases herror.symm.trans hparsed

theorem compile_single_eq_ok_iff {x : NameMap CompiledDirectory} :
    m.compile s (.single path d) opts = .ok x ↔
      ∃ parsed, (m.compileDirectory s opts d).outcome = .ok parsed ∧ .single path parsed = x := by
  rw [compile_single, map_eq_ok_iff]

theorem exists_compile_single_ok_iff : (∃ x, m.compile s (.single path d) opts = .ok x) ↔
    ∃ parsed, (m.compileDirectory s opts d).outcome = .ok parsed := by
  simp only [compile_single_eq_ok_iff]
  exact ⟨fun ⟨_, parsed, h, _⟩ => ⟨parsed, h⟩, fun ⟨parsed, h⟩ => ⟨_, parsed, h, rfl⟩⟩

theorem compile_single_eq_error_iff : m.compile s (.single path d) opts = .error e ↔
    (m.compileDirectory s opts d).outcome = .error e := by
  rw [compile_single, map_eq_error_iff]

theorem find?_compile_iff {out : NameMap CompiledDirectory}
    (h : m.compile s directories opts = .ok out) {parsed : CompiledDirectory} :
    out.find? path = some parsed ↔ ∃ p d x, directories.find? p = some d ∧
      m.compile s (.single p d) opts = .ok x ∧ x.find? path = some parsed := by
  constructor
  · intro hparsed
    obtain ⟨d, hd, hdir⟩ := exists_of_compile_find? h hparsed
    exact ⟨path, d, _, hd, compile_single_eq_ok_iff.2 ⟨parsed, hdir, rfl⟩, by simp⟩
  · rintro ⟨p, d, x, hd, hx, hparsed⟩
    obtain ⟨other, hother, rfl⟩ := compile_single_eq_ok_iff.1 hx
    obtain ⟨parsed', hdir, hout⟩ := compile_find? h hd
    cases hdir.symm.trans hother
    rw [NameMap.find?_single] at hparsed
    split at hparsed
    case isTrue hpath =>
      cases hparsed
      rwa [hpath]
    case isFalse => cases hparsed

theorem generate_eq_bind (m : Mapper) (s : Schema) (directories : NameMap Directory)
    (opts : IrOptions) : m.generate s directories opts =
      (DirectoryIndex.ofDirectories (some directories)).bind fun index =>
        (m.compile s directories opts).map (Ir.mk index.orderedNames) := by
  change (Traced.bind _ _).outcome = _
  rw [Traced.outcome_bind]
  refine congrArg _ (funext fun index => ?_)
  change (Traced.bind _ _).outcome = _
  rw [Traced.outcome_bind]
  rfl

/-- A directory for an entry that a schema may not have. -/
def strayDirectory (name : String) (entry : EntryId) : Directory where
  name := name
  entry := entry
  path := ⟨["", "m", name]⟩

/-- The directories of `crossedContainers`, then one for an entry that the schema does not have, and
another one such, of this name. -/
def withFaults (name : String) : NameMap Directory :=
  (crossedDirectories.insert "/m/c" (strayDirectory "Third" ⟨8⟩)).insert "/m/d"
    (strayDirectory name ⟨9⟩)

/-- Directories compile if each of them does alone, and to the union of what each of them compiles
to; otherwise they fail as the one of the least path among those that fail alone. Generation is the
same but for directories of one name, which it refuses whatever becomes of compiling them. -/
theorem compile_of_parts (m : Mapper) (s : Schema) (directories : NameMap Directory)
    (opts : IrOptions) :
    let part (path : String) (d : Directory) := m.compile s (.single path d) opts
    ((∃ out, m.compile s directories opts = .ok out) ↔
      ∀ path d, directories.find? path = some d → ∃ x, part path d = .ok x) ∧
    (∀ out, m.compile s directories opts = .ok out → ∀ path parsed,
      out.find? path = some parsed ↔
        ∃ p d x, directories.find? p = some d ∧ part p d = .ok x ∧ x.find? path = some parsed) ∧
    (∀ e, m.compile s directories opts = .error e ↔
      ∃ path d, directories.find? path = some d ∧ part path d = .error e ∧
        ∀ q d', q < path → directories.find? q = some d' → ∃ x, part q d' = .ok x) ∧
    (DirectoryIndex.NamedApart directories →
      ∃ index, DirectoryIndex.ofDirectories (some directories) = .ok index ∧
        m.generate s directories opts =
          (m.compile s directories opts).map (Ir.mk index.orderedNames)) ∧
    (¬DirectoryIndex.NamedApart directories →
      ∃ name, 1 < (DirectoryIndex.producers directories name).length ∧
        m.generate s directories opts =
          .error (.nameConflict name (DirectoryIndex.producers directories name))) := by
  intro part
  refine ⟨?_, fun out hout path parsed => find?_compile_iff hout, fun e => ?_, fun hapart => ?_,
    fun hshared => ?_⟩
  · simp only [part, exists_compile_single_ok_iff]
    exact exists_compile_ok_iff
  · simp only [part, exists_compile_single_ok_iff, compile_single_eq_error_iff]
    exact compile_eq_error_iff
  · obtain ⟨-, index, hindex⟩ | ⟨name, hname, -⟩ := DirectoryIndex.ofDirectories_cases directories
    · refine ⟨index, hindex, ?_⟩
      rw [generate_eq_bind, hindex]
      rfl
    · exact absurd hapart (DirectoryIndex.not_namedApart_of_producers hname)
  · obtain ⟨hapart, -⟩ | ⟨name, hname, hconflict⟩ := DirectoryIndex.ofDirectories_cases directories
    · exact absurd hapart hshared
    · refine ⟨name, hname, ?_⟩
      rw [generate_eq_bind, hconflict]
      rfl

/-- Two directories fail, and the first of them counts; a name that two of them share comes before
both. -/
theorem compile_of_parts_withFaults :
    (CamelCase.ofEnums []).mapper.compile crossedContainers (withFaults "Fourth") {} =
        .error (.unknownEntry ⟨8⟩) ∧
      ∃ name, 1 < (DirectoryIndex.producers (withFaults "Early") name).length ∧
        (CamelCase.ofEnums []).mapper.generate crossedContainers (withFaults "Early") {} =
          .error (.nameConflict name (DirectoryIndex.producers (withFaults "Early") name)) := by
  constructor
  · obtain ⟨-, -, herror, -⟩ := compile_of_parts (CamelCase.ofEnums []).mapper crossedContainers
      (withFaults "Fourth") {}
    have hbefore : ∀ e ∈ (withFaults "Fourth").entries, e.1 < "/m/c" →
        ((CamelCase.ofEnums []).mapper.compile crossedContainers (.single e.1 e.2)
          {}).toOption.isSome = true := by
      decide +kernel
    refine (herror _).2 ⟨"/m/c", strayDirectory "Third" ⟨8⟩, by decide +kernel, by decide +kernel,
      fun q d' hlt hd' => ?_⟩
    obtain ⟨x, hx⟩ := Option.isSome_iff_exists.1
      (hbefore (q, d') (NameMap.find?_eq_some_iff.1 hd') hlt)
    exact ⟨x, toOption_eq_some_iff.1 hx⟩
  · obtain ⟨-, -, -, -, hconflict⟩ := compile_of_parts (CamelCase.ofEnums []).mapper
      crossedContainers (withFaults "Early") {}
    have hshared : 1 < (DirectoryIndex.producers (withFaults "Early") "Early").length := by
      decide +kernel
    exact hconflict (DirectoryIndex.not_namedApart_of_producers hshared)

end Mapper

end YangBind
