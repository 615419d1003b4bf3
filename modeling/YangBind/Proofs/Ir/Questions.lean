import YangBind.Proofs.Ir.Script
import YangBind.Schema.Draft

/-! The questions of a compilation. Where nothing is wrong with the directories themselves, the
mapper is asked the same questions in the same order, whatever it answers, until it refuses one;
this refusal is then what the compilation fails with. -/

namespace YangBind

variable {s : Schema} {opts : IrOptions} {directories : NameMap Directory}

namespace Directory

/-- The questions about a field that the options leave in. -/
def keptQuestions (s : Schema) (opts : IrOptions) (d : Directory) (node : Node s)
    (field : String × EntryId) : List (Question s) :=
  match s.node? field.2 with
  | none => []
  | some n => if opts.skips n.entry.status then [] else d.fieldQuestions node n

/-- The fields in ascending order of their keys, then the package, then the keys of a list. -/
def questions (s : Schema) (opts : IrOptions) (d : Directory) : List (Question s) :=
  match s.node? d.entry with
  | none => []
  | some node =>
    d.fields.entries.flatMap (d.keptQuestions s opts node) ++
      ⟨.packageName, node⟩ :: node.keyQuestions

theorem filterMap_fieldScript (d : Directory) (node : Node s) (field : String × EntryId) :
    (d.fieldScript s opts node field).filterMap Action.question? =
      d.keptQuestions s opts node field := by
  unfold fieldScript keptQuestions Schema.scriptAt
  cases s.node? field.2 with
  | none => rfl
  | some n =>
    dsimp only
    split
    · rfl
    · simp [List.filterMap_cons]

theorem filterMap_script (d : Directory) :
    (d.script s opts).filterMap Action.question? = d.questions s opts := by
  unfold script questions Schema.scriptAt
  cases s.node? d.entry with
  | none => rfl
  | some node => simp [List.filterMap_flatMap, filterMap_fieldScript]

end Directory

/-- The questions of a compilation, directory by directory in ascending order of their keys. -/
def Schema.questions (s : Schema) (opts : IrOptions) (directories : NameMap Directory) :
    List (Question s) :=
  directories.entries.flatMap fun e => e.2.questions s opts

theorem Schema.filterMap_script : (s.script opts directories).filterMap Action.question? =
    s.questions opts directories := by
  rw [script, List.filterMap_flatMap]
  simp only [Directory.filterMap_script]
  rfl

namespace Mapper

/-- The mapper that has no field name for nodes of this name. -/
def refusing (m : Mapper) (name : String) : Mapper :=
  { m with fieldName n := if n.name = name then .error ⟨s!"no name for {name}"⟩ else m.fieldName n }

/-- A list with two deprecated leaves, one of which is its key. -/
def statusList : Schema := (Draft.empty.run [
  .module "m",
  .add ⟨0⟩ (.list "l" ["k"]),
  .add ⟨1⟩ { EntrySpec.leaf "k" "string" with status := .deprecated },
  .add ⟨1⟩ (.leaf "v" "string"),
  .add ⟨1⟩ (.container "c"),
  .add ⟨1⟩ { EntrySpec.leaf "old" "string" with status := .deprecated }]).2.schema

/-- The nodes of `statusList` in order of its steps. -/
def statusNode (i : Fin 6) : Node statusList :=
  (statusList.node? (.ofIndex i)).get (by revert i; decide +kernel)

def statusDirectories : NameMap Directory := .ofList [("/m/l", {
  name := "L"
  entry := ⟨1⟩
  path := ⟨["", "m", "l"]⟩
  fields := .ofList [("k", ⟨2⟩), ("v", ⟨3⟩), ("c", ⟨4⟩), ("old", ⟨5⟩)]
  keyElems := some [⟨2⟩] })]

def skipDeprecated : IrOptions := { transformOptions := { skipDeprecated := true } }

/-- The questions put are those of the plan up to the first one that is refused. That the
directories are fit for compilation is told by a mapper that answers everything. -/
theorem calls_of_compile {obliging : Mapper} {out : NameMap CompiledDirectory}
    (hreply : ∀ q : Question s, obliging.reply opts q = .ok ())
    (hout : obliging.compile s directories opts = .ok out) (m : Mapper) :
    let plan := s.questions opts directories
    let calls := (m.compileTraced s directories opts).calls
    ((∀ q ∈ plan, m.reply opts q = .ok ()) →
      calls = plan.map Question.call ∧ ∃ out, m.compile s directories opts = .ok out) ∧
    ∀ before q after cause, plan = before ++ q :: after →
      (∀ p ∈ before, m.reply opts p = .ok ()) → m.reply opts q = .error cause →
        calls = (before ++ [q]).map Question.call ∧
          m.compile s directories opts = .error (.mapper cause) := by
  intro plan calls
  have hchecked : Checked (s.script opts directories) :=
    ((performs_compileTraced obliging s directories opts).exists_ok_iff hreply).1 ⟨out, hout⟩
  have hrun : (⟨verdict (m.compile s directories opts), calls⟩ : Traced Unit) =
      .perform (m.reply opts) (plan.map .ask) := by
    rw [show plan = _ from Schema.filterMap_script.symm, ← Traced.perform_of_checked hchecked]
    exact performs_compileTraced m s directories opts
  constructor
  · intro hall
    rw [Traced.perform_asks hall, Traced.mk.injEq, verdict_eq_ok_iff] at hrun
    exact hrun.symm
  · intro before q after cause hplan hbefore hq
    rw [hplan, Traced.perform_asks_of_refused hbefore hq, Traced.mk.injEq,
      verdict_eq_error_iff] at hrun
    exact hrun.symm

/-- The deprecated key is asked for as a key of the list, and not as a field. -/
theorem calls_of_compile_statusList :
    ((plain.refusing "k").compileTraced statusList statusDirectories skipDeprecated).calls =
        [⟨.fieldName, ⟨4⟩⟩, ⟨.fieldFlags, ⟨4⟩⟩, ⟨.leafType, ⟨3⟩⟩, ⟨.fieldName, ⟨3⟩⟩,
          ⟨.fieldFlags, ⟨3⟩⟩, ⟨.packageName, ⟨1⟩⟩, ⟨.fieldName, ⟨2⟩⟩] ∧
      (plain.refusing "k").compile statusList statusDirectories skipDeprecated =
        .error (.mapper ⟨"no name for k"⟩) := by
  have hok : (plain.compile statusList statusDirectories skipDeprecated).isOk = true := by
    decide +kernel
  cases hout : plain.compile statusList statusDirectories skipDeprecated with
  | error e => simp [hout, Except.isOk, Except.toBool] at hok
  | ok out =>
    have hplan : statusList.questions skipDeprecated statusDirectories =
        [⟨.fieldName, statusNode 4⟩, ⟨.fieldFlags, statusNode 4⟩, ⟨.leafType, statusNode 3⟩,
          ⟨.fieldName, statusNode 3⟩, ⟨.fieldFlags, statusNode 3⟩,
          ⟨.packageName, statusNode 1⟩] ++
        ⟨.fieldName, statusNode 2⟩ :: [⟨.keyLeafType, statusNode 2⟩] := by
      decide +kernel
    exact (calls_of_compile (reply_plain _) hout (plain.refusing "k")).2 _ _ _ _ hplan
      (by decide +kernel) (by decide +kernel)

end Mapper

end YangBind
