import YangBind.Proofs.Ir.Compilation
import YangBind.Proofs.Ir.Questions
import YangBind.Proofs.Mapper.Agreement

/-! What the mapper is told of leaves that the options leave out. A compilation depends on the
answers to its own questions only, and leaves that are left out are not asked for as fields. They
are still asked for as keys of a list, so the result depends on the answers given there. -/

namespace YangBind

variable {s : Schema} {m m' : Mapper} {opts : IrOptions} {d : Directory} {node : Node s}

namespace Mapper

/-- Whether two mappers answer a question of a compilation alike. -/
def AlikeAt (m m' : Mapper) (opts : IrOptions) (q : Question s) : Prop :=
  let compress := opts.transformOptions.compressBehaviour
  match q.method with
  | .fieldName => m.fieldName q.node = m'.fieldName q.node
  | .directoryName => m.directoryName q.node compress = m'.directoryName q.node compress
  | .packageName => m.packageName q.node compress opts.nestedDirectories =
      m'.packageName q.node compress opts.nestedDirectories
  | .keyLeafType => m.keyLeafType q.node opts = m'.keyLeafType q.node opts
  | .leafType => m.leafType q.node opts = m'.leafType q.node opts
  | .fieldFlags => ∀ field, m.fieldFlags field q.node = m'.fieldFlags field q.node

theorem fieldType_congr {field : Node s}
    (h : ∀ q ∈ d.typeQuestions node field, m.AlikeAt m' opts q) :
    m.fieldType opts d node field = m'.fieldType opts d node field := by
  unfold fieldType
  unfold Directory.typeQuestions at h
  cases hkind : FieldKind.ofEntryKind field.kind with
  | leaf | leafList =>
    have hq := h _ (by rw [hkind]; exact List.mem_singleton_self _)
    cases hkey : d.isKey node field with
    | true =>
      rw [hkey] at hq
      exact congrArg (ask .keyLeafType field) hq
    | false =>
      rw [hkey] at hq
      exact congrArg (ask .leafType field) hq
  | container | list | anyData => rfl

theorem compileField_congr {field : Node s} (key : String)
    (h : ∀ q ∈ d.fieldQuestions node field, m.AlikeAt m' opts q) :
    m.compileField opts d node key field = m'.compileField opts d node key field := by
  have htype : m.fieldType opts d node field = m'.fieldType opts d node field :=
    fieldType_congr fun q hq => h q (List.mem_append_left _ hq)
  have hname : m.fieldName field = m'.fieldName field :=
    h ⟨.fieldName, field⟩ (by simp [Directory.fieldQuestions])
  have hflags : ∀ compiled, m.fieldFlags compiled field = m'.fieldFlags compiled field :=
    h ⟨.fieldFlags, field⟩ (by simp [Directory.fieldQuestions])
  simp only [compileField, askFieldName, askFieldFlags, htype, hname, hflags]

theorem compileFields_congr
    (h : ∀ q, .ask q ∈ d.fields.entries.flatMap (d.fieldScript s opts node) →
      m.AlikeAt m' opts q) :
    m.compileFields opts d node = m'.compileFields opts d node := by
  unfold compileFields
  congr 1
  refine Traced.collect_congr ?_
  rintro ⟨key, i⟩ hmem
  refine Traced.bind_congr_of_ok fun field hfield => ?_
  obtain rfl := Directory.require_eq_ok_iff.1 hfield
  split
  case isTrue => rfl
  case isFalse hkept =>
    rw [compileField_congr key fun q hq => h q ?_]
    refine List.mem_flatMap.2 ⟨(key, field.id), hmem, ?_⟩
    rw [Directory.fieldScript, Schema.scriptAt_id, if_neg hkept]
    exact List.mem_append_right _ (List.mem_map_of_mem hq)

theorem compileKeys_congr (h : ∀ q ∈ node.keyQuestions, m.AlikeAt m' opts q) :
    m.compileKeys opts node = m'.compileKeys opts node := by
  unfold compileKeys
  cases hlist : node.entry.isList with
  | false => rfl
  | true =>
    congr 2
    refine Traced.collect_congr fun name hname => ?_
    cases hleaf : node.dataChild? name with
    | none => rfl
    | some leaf =>
      have hkey : ∀ q ∈ [⟨.fieldName, leaf⟩, ⟨.keyLeafType, leaf⟩], m.AlikeAt m' opts q := by
        intro q hq
        refine h q ?_
        rw [Node.keyQuestions, if_pos hlist]
        exact List.mem_flatMap.2 ⟨leaf, List.mem_filterMap.2 ⟨name, hname, hleaf⟩, hq⟩
      have hfieldName : m.fieldName leaf = m'.fieldName leaf := hkey ⟨.fieldName, leaf⟩ (by simp)
      have hkeyLeafType : m.keyLeafType leaf opts = m'.keyLeafType leaf opts :=
        hkey ⟨.keyLeafType, leaf⟩ (by simp)
      simp only [askFieldName, askKeyLeafType, hfieldName, hkeyLeafType]

theorem compileDirectory_congr (h : ∀ q, .ask q ∈ d.script s opts → m.AlikeAt m' opts q) :
    m.compileDirectory s opts d = m'.compileDirectory s opts d := by
  refine Traced.bind_congr_of_ok fun node hnode => ?_
  rw [Directory.script_eq (Directory.require_eq_ok_iff.1 hnode)] at h
  have hfields : m.compileFields opts d node = m'.compileFields opts d node :=
    compileFields_congr fun q hq => h q (List.mem_append_left _ hq)
  have hpackage : m.packageName node opts.transformOptions.compressBehaviour
      opts.nestedDirectories = m'.packageName node opts.transformOptions.compressBehaviour
        opts.nestedDirectories :=
    h ⟨.packageName, node⟩ (List.mem_append_right _ List.mem_cons_self)
  have hkeys : m.compileKeys opts node = m'.compileKeys opts node :=
    compileKeys_congr fun q hq =>
      h q (List.mem_append_right _ (List.mem_cons_of_mem _ (List.mem_map_of_mem hq)))
  simp only [askPackageName, hfields, hpackage, hkeys]

/-- A compilation depends on the answers to its own questions only. -/
theorem compileTraced_congr {directories : NameMap Directory}
    (h : ∀ q, .ask q ∈ s.script opts directories → m.AlikeAt m' opts q) :
    m.compileTraced s directories opts = m'.compileTraced s directories opts := by
  unfold compileTraced
  congr 1
  refine Traced.collect_congr ?_
  rintro ⟨path, d⟩ hmem
  dsimp only
  rw [compileDirectory_congr fun q hq => h q (List.mem_flatMap.2 ⟨(path, d), hmem, hq⟩)]

end Mapper

theorem Directory.kept_of_ask_mem_fieldScript {q : Question s} {field : String × EntryId}
    (h : .ask q ∈ d.fieldScript s opts node field) : opts.skips q.node.entry.status = false := by
  obtain ⟨-, h⟩ | ⟨n, -, h⟩ := Schema.mem_scriptAt h
  · cases h
  · split at h
    case isTrue => cases h
    case isFalse hkept =>
      have hq : q ∈ d.fieldQuestions node n := by simpa using h
      rw [node_of_mem_fieldQuestions hq]
      exact Bool.eq_false_iff.2 hkept

/-- A question is about a field that stays, about the node of a directory or about a key of a list.
-/
theorem Directory.cases_of_ask_mem_script {q : Question s} (h : .ask q ∈ d.script s opts) :
    opts.skips q.node.entry.status = false ∨ ∃ node : Node s, node.id = d.entry ∧
      (q.node = node ∨ q ∈ node.keyQuestions) := by
  obtain ⟨-, h⟩ | ⟨node, hnode, h⟩ := Schema.mem_scriptAt h
  · cases h
  · simp only [List.mem_append, List.mem_flatMap, List.mem_cons, List.mem_map, Action.ask.injEq,
      exists_eq_right] at h
    obtain ⟨field, -, h⟩ | rfl | h := h
    · exact .inl (kept_of_ask_mem_fieldScript h)
    · exact .inr ⟨node, hnode, .inl rfl⟩
    · exact .inr ⟨node, hnode, .inr h⟩

theorem Node.mem_keyQuestions {q : Question s} (h : q ∈ node.keyQuestions) :
    node.entry.isList = true ∧ (∃ key ∈ node.entry.keys, node.dataChild? key = some q.node) ∧
      (q = ⟨.fieldName, q.node⟩ ∨ q = ⟨.keyLeafType, q.node⟩) := by
  unfold keyQuestions at h
  split at h
  case isFalse => cases h
  case isTrue hlist =>
    obtain ⟨leaf, hleaf, hq⟩ := List.mem_flatMap.1 h
    have hkey := List.mem_filterMap.1 hleaf
    obtain rfl | hq := List.mem_cons.1 hq
    · exact ⟨hlist, hkey, .inl rfl⟩
    · obtain rfl := List.mem_singleton.1 hq
      exact ⟨hlist, hkey, .inr rfl⟩

/-- Whether the options leave out a leaf. -/
def IrOptions.drops (opts : IrOptions) (n : Node s) : Bool :=
  n.entry.isLeaf && opts.skips n.entry.status

namespace Mapper

/-- Whether two mappers say the same of the keys of every list that has a directory. -/
def AlikeOnKeys (m m' : Mapper) (s : Schema) (directories : NameMap Directory)
    (opts : IrOptions) : Prop :=
  ∀ path d (l leaf : Node s) key, directories.find? path = some d → l.id = d.entry →
    l.entry.isList = true → key ∈ l.entry.keys → l.dataChild? key = some leaf →
      m.fieldName leaf = m'.fieldName leaf ∧ m.keyLeafType leaf opts = m'.keyLeafType leaf opts

theorem alikeOnKeys_of_compile {directories : NameMap Directory} {out : NameMap CompiledDirectory}
    (h : m.compile s directories opts = .ok out) (h' : m'.compile s directories opts = .ok out) :
    AlikeOnKeys m m' s directories opts := by
  intro path d l leaf key hd hentry hlist hkey hleaf
  obtain ⟨parsed, keys, listKey, hparsed, hkeys, hlistKey, hname, htype⟩ :=
    exists_listKey_of_compile h hd hentry hlist hkey hleaf
  obtain ⟨parsed', keys', listKey', hparsed', hkeys', hlistKey', hname', htype'⟩ :=
    exists_listKey_of_compile h' hd hentry hlist hkey hleaf
  obtain rfl := Option.some.inj (hparsed.symm.trans hparsed')
  obtain rfl := Option.some.inj (hkeys.symm.trans hkeys')
  obtain rfl := Option.some.inj (hlistKey.symm.trans hlistKey')
  exact ⟨hname.trans hname'.symm, htype.trans htype'.symm⟩

theorem alikeAt_refusing {name : String} {q : Question s} (h : q.node.name ≠ name) :
    m.AlikeAt (m.refusing name) opts q := by
  obtain ⟨method, n⟩ := q
  cases method with
  | fieldName => exact (if_neg h).symm
  | fieldFlags => exact fun _ => rfl
  | directoryName | packageName | keyLeafType | leafType => rfl

/-- For mappers that differ on leaves that are left out alone, the result is the same if they say
the same of the keys of lists, and one that succeeds is the same only then. -/
theorem compile_eq_of_alike {directories : NameMap Directory}
    (halike : ∀ q : Question s, opts.drops q.node = false → m.AlikeAt m' opts q)
    (hentry : ∀ path d (n : Node s), directories.find? path = some d → n.id = d.entry →
      opts.drops n = false) :
    (AlikeOnKeys m m' s directories opts →
      m.compile s directories opts = m'.compile s directories opts) ∧
    ∀ out, m.compile s directories opts = .ok out →
      (m'.compile s directories opts = .ok out ↔ AlikeOnKeys m m' s directories opts) := by
  have hsame : AlikeOnKeys m m' s directories opts →
      m.compile s directories opts = m'.compile s directories opts := by
    intro hkeys
    refine congrArg Traced.outcome (compileTraced_congr fun q hq => ?_)
    obtain ⟨⟨path, d⟩, hmem, hq⟩ := List.mem_flatMap.1 hq
    have hd := NameMap.find?_eq_some_iff.2 hmem
    obtain hkept | ⟨node, hnode, rfl | hkey⟩ := Directory.cases_of_ask_mem_script hq
    · exact halike q (by simp [IrOptions.drops, hkept])
    · exact halike q (hentry path d _ hd hnode)
    · obtain ⟨hlist, ⟨key, hkey, hleaf⟩, hmethod⟩ := Node.mem_keyQuestions hkey
      obtain ⟨hname, htype⟩ := hkeys path d node q.node key hd hnode hlist hkey hleaf
      obtain h | h := hmethod
      · rw [h]
        exact hname
      · rw [h]
        exact htype
  refine ⟨hsame, fun out hout => ⟨fun hout' => alikeOnKeys_of_compile hout hout', fun hkeys => ?_⟩⟩
  rw [← hsame hkeys, hout]

/-- All nodes of `statusList` but its deprecated leaves are alike to a mapper that refuses one of
these. -/
theorem alikeAt_statusList {name : String} (h : name ∈ ["k", "old"]) (q : Question statusList)
    (hq : skipDeprecated.drops q.node = false) :
    plain.AlikeAt (plain.refusing name) skipDeprecated q := by
  have hall : ∀ name ∈ ["k", "old"], ∀ n ∈ statusList.nodes, skipDeprecated.drops n = false →
      n.name ≠ name := by
    decide +kernel
  exact alikeAt_refusing (hall name h q.node (Node.mem_nodes _) hq)

theorem drops_entry_statusList (path : String) (d : Directory) (n : Node statusList)
    (hd : statusDirectories.find? path = some d) (hn : n.id = d.entry) :
    skipDeprecated.drops n = false := by
  have hall : ∀ e ∈ statusDirectories.entries, ∀ n ∈ statusList.nodes, n.id = e.2.entry →
      skipDeprecated.drops n = false := by
    decide +kernel
  exact hall (path, d) (NameMap.find?_eq_some_iff.1 hd) n (Node.mem_nodes n) hn

/-- The deprecated leaf that is no key makes no difference. -/
theorem compile_eq_of_alike_statusList :
    AlikeOnKeys plain (plain.refusing "old") statusList statusDirectories skipDeprecated ∧
      plain.compile statusList statusDirectories skipDeprecated =
        (plain.refusing "old").compile statusList statusDirectories skipDeprecated := by
  have hall : ∀ l ∈ statusList.nodes, ∀ key ∈ l.entry.keys, ∀ leaf ∈ l.dataChild? key,
      leaf.name ≠ "old" := by
    decide +kernel
  have hkeys : AlikeOnKeys plain (plain.refusing "old") statusList statusDirectories
      skipDeprecated := by
    intro path d l leaf key hd hentry hlist hkey hleaf
    have hname := hall l (Node.mem_nodes l) key hkey leaf hleaf
    exact ⟨(if_neg hname).symm, rfl⟩
  exact ⟨hkeys, (compile_eq_of_alike (alikeAt_statusList (by simp)) drops_entry_statusList).1 hkeys⟩

/-- The deprecated key, which is left out as a field, still ends the compilation. -/
theorem dropped_key_fails_compile :
    (∀ q : Question statusList, skipDeprecated.drops q.node = false →
        plain.AlikeAt (plain.refusing "k") skipDeprecated q) ∧
      (∀ path d (n : Node statusList), statusDirectories.find? path = some d → n.id = d.entry →
        skipDeprecated.drops n = false) ∧
      (plain.compile statusList statusDirectories skipDeprecated).isOk = true ∧
      (plain.refusing "k").compile statusList statusDirectories skipDeprecated =
        .error (.mapper ⟨"no name for k"⟩) :=
  ⟨alikeAt_statusList (by simp), drops_entry_statusList, by decide +kernel, by decide +kernel⟩

end Mapper

end YangBind
