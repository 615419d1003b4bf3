import YangBind.Proofs.Directory.KeyAlias
import YangBind.Proofs.Directory.PathOutcome
import YangBind.Proofs.Ir.Script

/-! Which directories compile. If the mapper answers every question, a compilation fails only over
entries that the schema does not have and entries that do not lie below their directory. -/

namespace YangBind

variable {s : Schema} {m : Mapper} {opts : IrOptions} {d : Directory}

namespace Directory

/-- Whether a field is one that the options leave in. -/
def Keeps (opts : IrOptions) (d : Directory) (key : String) (n : Node s) : Prop :=
  d.fields.find? key = some n.id ∧ opts.skips n.entry.status = false

/-- What a compilation demands of a directory, whatever the mapper is. -/
structure IsCompilable (s : Schema) (opts : IrOptions) (d : Directory) : Prop where
  entry : s.Has d.entry
  fields : ∀ key i, d.fields.find? key = some i → s.Has i
  below : ∀ key (n : Node s), d.Keeps opts key n → n.schemaPath.Extends d.path
  shadows : opts.shadowSchemaPaths = true → ∀ key (n : Node s), d.Keeps opts key n →
    ∀ i, d.shadowed.find? key = some i → ∃ x : Node s, x.id = i ∧ x.schemaPath.Extends d.path
  keys : opts.compressPaths = true → ∀ key (n : Node s), d.Keeps opts key n → d.CanSeek s n

variable {key : String} {n : Node s}

theorem primaryPaths_ok_iff {compress : Bool} {mode : PathMode}
    (h : d.fields.find? key = some n.id) :
    (∃ paths, d.mappedPaths s key compress .primary mode = .ok paths) ↔
      n.schemaPath.Extends d.path ∧ (compress = true → d.CanSeek s n) := by
  have hlocate : ∀ x : Node s, d.locate s key .primary = .ok (some x) ↔
      x = n ∧ n.schemaPath.Extends d.path := by
    intro x
    rw [locate_eq_some_iff, branch, h, Option.some.injEq, Node.id_inj]
    constructor <;> rintro ⟨rfl, hx⟩ <;> exact ⟨rfl, hx⟩
  simp only [mappedPaths_ok_iff, locate_eq_none_iff, reduceCtorEq, and_false, false_or, hlocate,
    exists_eq_left]
  refine and_congr_right fun hbelow => imp_congr_right fun _ => ?_
  exact listKeyAlias?_ok_iff ((hlocate n).2 ⟨rfl, hbelow⟩)

theorem shadowPaths_ok_iff (h : d.locate s key .primary = .ok (some n))
    (hseek : opts.compressPaths = true → d.CanSeek s n) :
    (∃ paths, d.shadowPaths s key opts = .ok paths) ↔ (opts.shadowSchemaPaths = true →
      ∀ i, d.shadowed.find? key = some i →
        ∃ x : Node s, x.id = i ∧ x.schemaPath.Extends d.path) := by
  unfold shadowPaths
  cases opts.shadowSchemaPaths with
  | false => simp
  | true =>
    have hkeyAlias : opts.compressPaths = true →
        ∃ keyAlias, d.listKeyAlias? s key opts.pathMode = .ok keyAlias :=
      fun hc => (listKeyAlias?_ok_iff h).2 (hseek hc)
    rw [if_pos rfl, mappedPaths_ok_iff, locate_eq_none_iff, and_iff_left hkeyAlias]
    simp only [locate_eq_some_iff, branch, and_true, forall_const]
    cases d.shadowed.find? key with
    | none => simp
    | some i => simp [eq_comm]

theorem checked_fieldScript_iff {node : Node s} {i : EntryId} (h : d.fields.find? key = some i) :
    Checked (d.fieldScript s opts node (key, i)) ↔
      ∃ n : Node s, n.id = i ∧ (opts.skips n.entry.status = false →
        n.schemaPath.Extends d.path ∧ (opts.compressPaths = true → d.CanSeek s n) ∧
          (opts.shadowSchemaPaths = true → ∀ j, d.shadowed.find? key = some j →
            ∃ x : Node s, x.id = j ∧ x.schemaPath.Extends d.path)) := by
  rw [fieldScript, Schema.checked_scriptAt]
  refine exists_congr fun n => and_congr_right ?_
  rintro rfl
  cases opts.skips n.entry.status with
  | true => simp
  | false =>
    simp only [Bool.false_eq_true, if_false, checked_append, checked_check_cons, checked_nil,
      checked_map_ask, verdict_eq_ok_iff, and_true, forall_const, primaryPaths_ok_iff h, and_assoc]
    refine and_congr_right fun hbelow => and_congr_right fun hseek => ?_
    exact shadowPaths_ok_iff (locate_eq_some_iff.2 ⟨h, hbelow⟩) hseek

theorem checked_script_iff : Checked (d.script s opts) ↔ d.IsCompilable s opts := by
  have hscript : Checked (d.script s opts) ↔ ∃ node : Node s, node.id = d.entry ∧
      ∀ key i, d.fields.find? key = some i → Checked (d.fieldScript s opts node (key, i)) := by
    simp [script, Schema.checked_scriptAt, NameMap.find?_eq_some_iff]
  rw [hscript]
  constructor
  · rintro ⟨node, hnode, hfields⟩
    have hkept := fun key (n : Node s) (hn : d.Keeps opts key n) =>
      (checked_fieldScript_iff hn.1).1 (hfields key n.id hn.1)
    refine ⟨⟨node, hnode⟩, fun key i hi => ?_, fun key n hn => ?_, fun hshadow key n hn => ?_,
      fun hcompress key n hn => ?_⟩
    · obtain ⟨n, hn, -⟩ := (checked_fieldScript_iff hi).1 (hfields key i hi)
      exact ⟨n, hn⟩
    all_goals
      obtain ⟨x, hx, hpaths⟩ := hkept key n hn
      obtain rfl := Node.id_inj.1 hx
      obtain ⟨hbelow, hseek, hshadows⟩ := hpaths hn.2
    · exact hbelow
    · exact hshadows hshadow
    · exact hseek hcompress
  · intro h
    obtain ⟨node, hnode⟩ := h.entry
    refine ⟨node, hnode, fun key i hi => (checked_fieldScript_iff hi).2 ?_⟩
    obtain ⟨n, rfl⟩ := h.fields key i hi
    refine ⟨n, rfl, fun hstatus => ?_⟩
    have hn : d.Keeps opts key n := ⟨hi, hstatus⟩
    exact ⟨h.below key n hn, fun hc => h.keys hc key n hn, fun hs => h.shadows hs key n hn⟩

theorem isCompilable_of_fields_eq_empty (hentry : s.Has d.entry) (h : d.fields = .empty) :
    d.IsCompilable s opts := by
  have hnone : ∀ key i, d.fields.find? key ≠ some i := fun key i hi => by simp [h] at hi
  exact ⟨hentry, fun key i hi => absurd hi (hnone key i), fun key n hn => absurd hn.1 (hnone key _),
    fun _ key n hn => absurd hn.1 (hnone key _), fun _ key n hn => absurd hn.1 (hnone key _)⟩

theorem misplaced_of_shadowPaths {e : BindError} (h : d.shadowPaths s key opts = .error e)
    (hkey : d.fields.contains key = true) : d.Misplaced s e := by
  unfold shadowPaths at h
  split at h
  case isTrue => exact misplaced_of_mappedPaths h hkey
  case isFalse => cases h

theorem misplaced_of_mem_fieldScript {e : BindError} {node : Node s} {i : EntryId}
    (h : .check (.error e) ∈ d.fieldScript s opts node (key, i))
    (hkey : d.fields.contains key = true) : d.Misplaced s e := by
  obtain ⟨hout, h⟩ | ⟨n, -, h⟩ := Schema.mem_scriptAt h
  · cases h
    exact .unknownEntry hout
  · split at h
    case isTrue => cases h
    case isFalse =>
      have hpaths : d.mappedPaths s key opts.compressPaths .primary opts.pathMode = .error e ∨
          d.shadowPaths s key opts = .error e := by
        simpa [eq_comm (a := Except.error e), verdict_eq_error_iff] using h
      obtain h | h := hpaths
      · exact misplaced_of_mappedPaths h hkey
      · exact misplaced_of_shadowPaths h hkey

theorem misplaced_of_mem_script {e : BindError} (h : .check (.error e) ∈ d.script s opts) :
    d.Misplaced s e := by
  obtain ⟨hout, h⟩ | ⟨node, -, h⟩ := Schema.mem_scriptAt h
  · cases h
    exact .unknownEntry hout
  · have hfield : .check (.error e) ∈ d.fields.entries.flatMap (d.fieldScript s opts node) := by
      simpa using h
    obtain ⟨⟨key, i⟩, hmem, h⟩ := List.mem_flatMap.1 hfield
    exact misplaced_of_mem_fieldScript h
      (Option.isSome_iff_exists.2 ⟨i, NameMap.find?_eq_some_iff.2 hmem⟩)

end Directory

namespace Mapper

/-- With a mapper that answers everything, directories that are fit for it compile. -/
theorem exists_compile_ok (hm : m.NeverFails s) {directories : NameMap Directory}
    (h : ∀ path d, directories.find? path = some d → d.IsCompilable s opts) :
    ∃ out, m.compile s directories opts = .ok out := by
  refine ((performs_compileTraced m s directories opts).exists_ok_iff (hm opts)).2 ?_
  refine checked_flatMap.2 fun ⟨path, d⟩ hmem => ?_
  exact Directory.checked_script_iff.2 (h path d (NameMap.find?_eq_some_iff.2 hmem))

/-- The directory for the list `splitList`, with the key `k` on both branches. -/
def seekDirectory (keyElems : List EntryId) : Directory :=
  { Directory.splitDirectory with
    fields := .ofList [("k", ⟨6⟩)]
    shadowed := .ofList [("k", ⟨8⟩)]
    keyElems := some keyElems }

def compileSeek (keyElems : List EntryId) : Except BindError (NameMap CompiledDirectory) :=
  plain.compile Directory.splitList (.ofList [("/m/l", seekDirectory keyElems)])
    { compressPaths := true, shadowSchemaPaths := true }

/-- With a mapper that answers everything, the directories compile exactly if all of them are fit
for it. Otherwise an entry is missing or lies in the wrong place. -/
theorem compile_ok_iff (hm : ∀ q : Question s, m.reply opts q = .ok ())
    (directories : NameMap Directory) :
    ((∃ out, m.compile s directories opts = .ok out) ↔
      ∀ path d, directories.find? path = some d → d.IsCompilable s opts) ∧
    ∀ e, m.compile s directories opts = .error e →
      ∃ path d, directories.find? path = some d ∧ d.Misplaced s e := by
  have hperforms := performs_compileTraced m s directories opts
  constructor
  · refine (hperforms.exists_ok_iff hm).trans ?_
    simp only [Schema.script, checked_flatMap, Prod.forall, Directory.checked_script_iff,
      NameMap.find?_eq_some_iff]
  · intro e he
    obtain ⟨⟨path, d⟩, hmem, h⟩ := List.mem_flatMap.1 (hperforms.check_of_error hm he)
    exact ⟨path, d, NameMap.find?_eq_some_iff.2 hmem, Directory.misplaced_of_mem_script h⟩

/-- An entry that is missing does no harm after the key that is sought, and ends the compilation
before it. -/
theorem compile_ok_iff_splitList :
    (seekDirectory [⟨6⟩, ⟨99⟩]).IsCompilable Directory.splitList
        { compressPaths := true, shadowSchemaPaths := true } ∧
      ∃ e, compileSeek [⟨99⟩, ⟨6⟩] = .error e ∧
        (seekDirectory [⟨99⟩, ⟨6⟩]).Misplaced Directory.splitList e := by
  constructor
  · have hok : (compileSeek [⟨6⟩, ⟨99⟩]).isOk = true := by decide +kernel
    cases hout : compileSeek [⟨6⟩, ⟨99⟩] with
    | error e => simp [hout, Except.isOk, Except.toBool] at hok
    | ok out =>
      exact (compile_ok_iff (reply_plain _) _).1.1 ⟨out, hout⟩ "/m/l" _ (by simp [NameMap.ofList])
  · have hok : (compileSeek [⟨99⟩, ⟨6⟩]).isOk = false := by decide +kernel
    cases hout : compileSeek [⟨99⟩, ⟨6⟩] with
    | ok out => simp [hout, Except.isOk, Except.toBool] at hok
    | error e =>
      obtain ⟨path, d, hd, he⟩ := (compile_ok_iff (reply_plain _) _).2 e hout
      obtain ⟨-, rfl⟩ : path = "/m/l" ∧ seekDirectory [⟨99⟩, ⟨6⟩] = d := by
        simpa [NameMap.ofList] using hd
      exact ⟨e, rfl, he⟩

end Mapper

end YangBind
