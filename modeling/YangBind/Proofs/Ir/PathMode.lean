import YangBind.Mapper.CamelCase
import YangBind.Proofs.Directory.PathMode
import YangBind.Proofs.Ir.Agreement

/-! A compilation in the two modes of paths. For a mapper that does not look at the mode, both fail
alike or both succeed, and then the results are the same but for the paths, which the absolute mode
leads from the module boundary through the directory. -/

namespace YangBind

variable {s : Schema} {m : Mapper} {d : Directory}

def IrOptions.withAbsolutePaths (opts : IrOptions) (on : Bool) : IrOptions :=
  { opts with absolutePaths := on }

/-- Whether the types that a mapper gives do not depend on the options, nor its annotations on the
compiled field. -/
structure Mapper.IsBlind (m : Mapper) (s : Schema) : Prop where
  keyLeafType (n : Node s) (o o' : IrOptions) : m.keyLeafType n o = m.keyLeafType n o'
  leafType (n : Node s) (o o' : IrOptions) : m.leafType n o = m.leafType n o'
  fieldFlags (n : Node s) (a b : CompiledField) : m.fieldFlags a n = m.fieldFlags b n

theorem CamelCase.isBlind_mapper (c : CamelCase) (s : Schema) : c.mapper.IsBlind s where
  keyLeafType _ _ _ := rfl
  leafType _ _ _ := rfl
  fieldFlags _ _ _ := rfl

namespace CompiledField

/-- Whether two compiled fields of a directory are the same but for their paths and the modules of
these, which the second one leads from the module boundary. -/
structure Rebases (d : Directory) (rel abs : CompiledField) : Prop where
  modules : List.Forall₂ d.RebasesModules rel.mappedPathModules abs.mappedPathModules
  shadowModules :
    List.Forall₂ d.RebasesModules rel.shadowMappedPathModules abs.shadowMappedPathModules
  eq : abs = { rel with
    mappedPaths := rel.mappedPaths.map d.rebase
    mappedPathModules := abs.mappedPathModules
    shadowMappedPaths := rel.shadowMappedPaths.map d.rebase
    shadowMappedPathModules := abs.shadowMappedPathModules }

theorem respectsNames_rebases (d : Directory) : RespectsNames (Rebases d) where
  name_eq h := (congrArg name h.eq).symm
  rename name h := {
    modules := h.modules
    shadowModules := h.shadowModules
    eq := by
      conv_lhs => rw [h.eq] }

end CompiledField

namespace Directory

theorem map_path_of_rebases {rel abs : List MappedPath} (h : List.Forall₂ d.Rebases rel abs) :
    abs.map MappedPath.path = (rel.map MappedPath.path).map d.rebase := by
  induction h with
  | nil => rfl
  | cons hp _ ih => rw [List.map_cons, List.map_cons, List.map_cons, hp.path_eq, ih]

theorem map_modules_of_rebases {rel abs : List MappedPath} (h : List.Forall₂ d.Rebases rel abs) :
    List.Forall₂ d.RebasesModules (rel.map MappedPath.modules) (abs.map MappedPath.modules) := by
  rw [List.forall₂_map_left_iff, List.forall₂_map_right_iff]
  exact h.imp fun _ _ hp => hp.modules

theorem agree_shadowPaths (hd : 2 ≤ d.path.length) (s : Schema) (key : String)
    (opts : IrOptions) :
    Agree (List.Forall₂ d.Rebases) (d.shadowPaths s key (opts.withAbsolutePaths false))
      (d.shadowPaths s key (opts.withAbsolutePaths true)) := by
  unfold shadowPaths
  change Agree _ (if opts.shadowSchemaPaths then _ else _) (if opts.shadowSchemaPaths then _ else _)
  split
  case isTrue => exact agree_mappedPaths hd s key _ .shadow
  case isFalse => exact .ok .nil

end Directory

namespace Mapper

theorem fieldType_of_isBlind (hm : m.IsBlind s) (o o' : IrOptions) (d : Directory)
    (node field : Node s) : m.fieldType o d node field = m.fieldType o' d node field := by
  simp only [fieldType, askKeyLeafType, askLeafType, hm.keyLeafType field o o',
    hm.leafType field o o']

theorem agree_compileField (hm : m.IsBlind s) (hd : 2 ≤ d.path.length) (opts : IrOptions)
    (node field : Node s) (key : String) :
    Agree (CompiledField.Rebases d)
      (m.compileField (opts.withAbsolutePaths false) d node key field).outcome
      (m.compileField (opts.withAbsolutePaths true) d node key field).outcome := by
  refine Traced.agree_bind (Directory.agree_mappedPaths hd s key _ .primary) ?_
  intro mapped mapped' hmapped
  refine Traced.agree_bind (Directory.agree_shadowPaths hd s key opts) ?_
  intro shadow shadow' hshadow
  -- after the paths the mode is seen by the mapper alone
  rw [fieldType_of_isBlind hm (opts.withAbsolutePaths false) (opts.withAbsolutePaths true)]
  refine Traced.agree_bind_self _ fun langType _ => ?_
  refine Traced.agree_bind_self _ fun name _ => .ok ?_
  refine ⟨Directory.map_modules_of_rebases hmapped, Directory.map_modules_of_rebases hshadow, ?_⟩
  dsimp only
  rw [Directory.map_path_of_rebases hmapped, Directory.map_path_of_rebases hshadow]
  exact congrArg (CompiledField.mk _ _ _ _ _ _ _ _) (hm.fieldFlags field _ _)

/-- The key `k` of `splitList` as a field, with both of its leaves and its alias. -/
def compileSplitKey (absolute : Bool) : Except BindError (NameMap CompiledDirectory) :=
  (CamelCase.ofEnums []).mapper.compile Directory.splitList
    (.ofList [("/m/l", seekDirectory [⟨5⟩, ⟨6⟩])])
    (IrOptions.withAbsolutePaths { compressPaths := true, shadowSchemaPaths := true } absolute)

/-- Leading the paths of a compilation from the module boundary changes nothing else: it fails just
as before, or each path of a directory has the directory's own path in front and each list of
modules as many modules more. The camel-case mapper is one that does not look at the mode. -/
theorem compile_rebases {directories : NameMap Directory}
    (hd : ∀ path d, directories.find? path = some d → 2 ≤ d.path.length) (opts : IrOptions) :
    (∀ c : CamelCase, c.mapper.IsBlind s) ∧ ∀ m : Mapper, m.IsBlind s →
      let compiled (absolute : Bool) := m.compile s directories (opts.withAbsolutePaths absolute)
      (∀ e, compiled true = .error e ↔ compiled false = .error e) ∧
      ∀ rel abs, compiled false = .ok rel → compiled true = .ok abs →
        NameMap.Related (fun path a b => ∃ d, directories.find? path = some d ∧
          CompiledDirectory.FieldsRelated (CompiledField.Rebases d) a b) rel abs := by
  refine ⟨fun c => c.isBlind_mapper s, fun m hm => ?_⟩
  intro compiled
  have hdirs : ∀ path d, directories.find? path = some d →
      Agree (CompiledDirectory.FieldsRelated (CompiledField.Rebases d))
        (m.compileDirectory s (opts.withAbsolutePaths false) d).outcome
        (m.compileDirectory s (opts.withAbsolutePaths true) d).outcome := by
    intro path d hfound
    refine agree_compileDirectory (CompiledField.respectsNames_rebases d) rfl rfl ?_ ?_
    · exact fun node _ key field _ => agree_compileField hm (hd path d hfound) opts node field key
    · intro node _
      exact compileKeys_congr_options fun _ _ _ leaf _ => hm.keyLeafType leaf _ _
  have hagree := agree_compile hdirs
  exact ⟨fun e => hagree.error_iff, fun rel abs hrel habs => hagree.of_ok hrel habs⟩

theorem compile_rebases_splitList :
    ∃ rel abs, compileSplitKey false = .ok rel ∧ compileSplitKey true = .ok abs ∧
      ∀ path a, rel.find? path = some a → ∃ b d, abs.find? path = some b ∧
        CompiledDirectory.FieldsRelated (CompiledField.Rebases d) a b := by
  have hpath : ∀ path d, (NameMap.ofList [("/m/l", seekDirectory [⟨5⟩, ⟨6⟩])]).find? path = some d →
      2 ≤ d.path.length := by
    intro path d hd
    obtain ⟨-, rfl⟩ : path = "/m/l" ∧ seekDirectory [⟨5⟩, ⟨6⟩] = d := by
      simpa [NameMap.ofList] using hd
    decide
  obtain ⟨hblind, hmodes⟩ := compile_rebases (s := Directory.splitList) hpath
    { compressPaths := true, shadowSchemaPaths := true }
  obtain ⟨herror, hrelated⟩ := hmodes _ (hblind (CamelCase.ofEnums []))
  have hok : (compileSplitKey false).isOk = true := by decide +kernel
  cases hrel : compileSplitKey false with
  | error e => simp [hrel, Except.isOk, Except.toBool] at hok
  | ok rel =>
    cases habs : compileSplitKey true with
    | error e => cases hrel.symm.trans ((herror e).1 habs)
    | ok abs =>
      refine ⟨rel, abs, rfl, rfl, fun path a ha => ?_⟩
      obtain ⟨hnone, -⟩ | ⟨x, b, hx, hb, d, -, hfields⟩ := (hrelated rel abs hrel habs).cases path
      · cases hnone.symm.trans ha
      · obtain rfl := Option.some.inj (hx.symm.trans ha)
        exact ⟨b, d, hb, hfields⟩

end Mapper

end YangBind
