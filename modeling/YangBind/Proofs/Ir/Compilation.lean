import YangBind.Ir.Compile
import YangBind.Proofs.Directory.FieldPath
import YangBind.Proofs.NameMap

/-! What a compilation that succeeds has done: every directory was compiled on its own, and so was
every field that the options do not leave out and every key of a list. -/

namespace YangBind

variable {s : Schema} {m : Mapper} {opts : IrOptions} {d : Directory}

/-- The results of `f` on the elements of a list, each with the key of its element. -/
def Traced.collectBy {α β : Type} (keyOf : α → String) (f : α → Traced β) (l : List α) :
    Traced (List (String × β)) :=
  collect (fun a => do return [(keyOf a, ← f a)]) l

namespace NameMap

variable {α β : Type}

/-- A map whose pairs are collected key by key has under each key what was collected for it. -/
theorem find?_ofList_of_collect {f : α → Traced (List (String × β))} (keyOf : α → String)
    {l : List α} {pairs : List (String × β)} (h : (Traced.collect f l).outcome = .ok pairs)
    (hkey : ∀ a ps, (f a).outcome = .ok ps → ∀ p ∈ ps, p.1 = keyOf a) {a : α} (ha : a ∈ l)
    (hinj : ∀ a' ∈ l, keyOf a' = keyOf a → a' = a) {x : β}
    (hf : (f a).outcome = .ok [(keyOf a, x)]) : (ofList pairs).find? (keyOf a) = some x := by
  have hmem := (Traced.outcome_collect h).2
  apply find?_ofList_of_mem
  · exact (hmem _).2 ⟨a, ha, _, hf, List.mem_singleton_self _⟩
  · intro y hy
    obtain ⟨a', ha', ps, hps, hy⟩ := (hmem _).1 hy
    obtain rfl := hinj a' ha' (hkey a' ps hps _ hy).symm
    cases hf.symm.trans hps
    simpa using hy

/-- What a map of collected pairs has under a key was collected for some element. -/
theorem exists_of_find?_ofList_collect {f : α → Traced (List (String × β))} {l : List α}
    {pairs : List (String × β)} (h : (Traced.collect f l).outcome = .ok pairs) {k : String} {x : β}
    (hx : (ofList pairs).find? k = some x) :
    ∃ a ∈ l, ∃ ps, (f a).outcome = .ok ps ∧ (k, x) ∈ ps :=
  ((Traced.outcome_collect h).2 _).1 (mem_of_find?_ofList hx)

variable {keyOf : α → String} {f : α → Traced β} {l : List α} {pairs : List (String × β)}

theorem find?_ofList_of_collectBy (h : (Traced.collectBy keyOf f l).outcome = .ok pairs) {a : α}
    (ha : a ∈ l) (hinj : ∀ a' ∈ l, keyOf a' = keyOf a → a' = a) :
    ∃ x, (f a).outcome = .ok x ∧ (ofList pairs).find? (keyOf a) = some x := by
  obtain ⟨ps, hps⟩ := (Traced.outcome_collect h).1 a ha
  obtain ⟨x, hx, hret⟩ := Traced.outcome_bind_eq_ok_iff.1 hps
  cases hret
  refine ⟨x, hx, find?_ofList_of_collect keyOf h ?_ ha hinj hps⟩
  intro a ps hps p hp
  obtain ⟨x, -, hret⟩ := Traced.outcome_bind_eq_ok_iff.1 hps
  cases hret
  cases List.mem_singleton.1 hp
  rfl

theorem exists_of_find?_ofList_collectBy (h : (Traced.collectBy keyOf f l).outcome = .ok pairs)
    {k : String} {x : β} (hx : (ofList pairs).find? k = some x) :
    ∃ a ∈ l, k = keyOf a ∧ (f a).outcome = .ok x := by
  obtain ⟨a, ha, ps, hps, hin⟩ := exists_of_find?_ofList_collect h hx
  obtain ⟨x', hx', hret⟩ := Traced.outcome_bind_eq_ok_iff.1 hps
  cases hret
  cases List.mem_singleton.1 hin
  exact ⟨a, ha, rfl, hx'⟩

end NameMap

namespace Mapper

theorem exists_collectBy_of_compile {directories : NameMap Directory}
    {out : NameMap CompiledDirectory} (h : m.compile s directories opts = .ok out) :
    ∃ pairs, (Traced.collectBy Prod.fst (fun e => m.compileDirectory s opts e.2)
      directories.entries).outcome = .ok pairs ∧ out = .ofList pairs := by
  obtain ⟨pairs, hpairs, h⟩ := Traced.outcome_bind_eq_ok_iff.1 h
  exact ⟨pairs, hpairs, (Except.ok.inj h).symm⟩

theorem compile_find? {directories : NameMap Directory} {out : NameMap CompiledDirectory}
    (h : m.compile s directories opts = .ok out) {path : String}
    (hd : directories.find? path = some d) :
    ∃ parsed, (m.compileDirectory s opts d).outcome = .ok parsed ∧
      out.find? path = some parsed := by
  obtain ⟨pairs, hpairs, rfl⟩ := exists_collectBy_of_compile h
  have hmem := NameMap.find?_eq_some_iff.1 hd
  obtain ⟨parsed, hparsed, hfound⟩ := NameMap.find?_ofList_of_collectBy hpairs hmem
    fun e he hkey => NameMap.eq_of_mem_entries he hmem hkey
  exact ⟨parsed, hparsed, hfound⟩

theorem exists_of_compile_find? {directories : NameMap Directory}
    {out : NameMap CompiledDirectory} (h : m.compile s directories opts = .ok out) {path : String}
    {parsed : CompiledDirectory} (hp : out.find? path = some parsed) :
    ∃ d, directories.find? path = some d ∧
      (m.compileDirectory s opts d).outcome = .ok parsed := by
  obtain ⟨pairs, hpairs, rfl⟩ := exists_collectBy_of_compile h
  obtain ⟨⟨path', d⟩, hmem, rfl, hparsed⟩ := NameMap.exists_of_find?_ofList_collectBy hpairs hp
  exact ⟨d, NameMap.find?_eq_some_iff.2 hmem, hparsed⟩

/-- Every directory is compiled, and nothing else. -/
theorem keys_of_compile {directories : NameMap Directory} {out : NameMap CompiledDirectory}
    (h : m.compile s directories opts = .ok out) : out.keys = directories.keys := by
  refine NameMap.keys_eq_of_mem_iff fun path => ?_
  rw [NameMap.mem_keys_iff, NameMap.mem_keys_iff]
  constructor
  · rintro ⟨parsed, hparsed⟩
    obtain ⟨d, hd, -⟩ := exists_of_compile_find? h hparsed
    exact ⟨d, hd⟩
  · rintro ⟨d, hd⟩
    obtain ⟨parsed, -, hparsed⟩ := compile_find? h hd
    exact ⟨parsed, hparsed⟩

theorem name_of_compileDirectory {parsed : CompiledDirectory}
    (h : (m.compileDirectory s opts d).outcome = .ok parsed) : parsed.name = d.name := by
  obtain ⟨node, -, h⟩ := Traced.outcome_bind_eq_ok_iff.1 h
  obtain ⟨fields, -, h⟩ := Traced.outcome_bind_eq_ok_iff.1 h
  obtain ⟨packageName, -, h⟩ := Traced.outcome_bind_eq_ok_iff.1 h
  obtain ⟨listKeys, -, h⟩ := Traced.outcome_bind_eq_ok_iff.1 h
  cases h
  rfl

/-- A compiled directory is what was compiled of its fields and keys, with display names. -/
theorem compileDirectory_ok {parsed : CompiledDirectory}
    (h : (m.compileDirectory s opts d).outcome = .ok parsed) :
    ∃ (node : Node s) (bare : CompiledDirectory), s.require d.entry = .ok node ∧
      (m.compileFields opts d node).outcome = .ok bare.fields ∧
      (m.compileKeys opts node).outcome = .ok bare.listKeys ∧ parsed = bare.rename := by
  obtain ⟨node, hnode, h⟩ := Traced.outcome_bind_eq_ok_iff.1 h
  obtain ⟨fields, hfields, h⟩ := Traced.outcome_bind_eq_ok_iff.1 h
  obtain ⟨packageName, -, h⟩ := Traced.outcome_bind_eq_ok_iff.1 h
  obtain ⟨listKeys, hkeys, h⟩ := Traced.outcome_bind_eq_ok_iff.1 h
  cases h
  exact ⟨node, _, hnode, hfields, hkeys, rfl⟩

theorem exists_node_of_compileFields {node : Node s} {fields : NameMap CompiledField}
    (h : (m.compileFields opts d node).outcome = .ok fields) {key : String} {i : EntryId}
    (hfield : d.fields.find? key = some i) : ∃ field : Node s, field.id = i := by
  obtain ⟨pairs, hpairs, -⟩ := Traced.outcome_bind_eq_ok_iff.1 h
  obtain ⟨ps, hps⟩ := (Traced.outcome_collect hpairs).1 _ (NameMap.find?_eq_some_iff.1 hfield)
  obtain ⟨field, hrequire, -⟩ := Traced.outcome_bind_eq_ok_iff.1 hps
  exact ⟨field, Directory.require_eq_ok_iff.1 hrequire⟩

theorem compileFields_find? {node field : Node s} {fields : NameMap CompiledField}
    (h : (m.compileFields opts d node).outcome = .ok fields) {key : String}
    (hfield : d.fields.find? key = some field.id)
    (hkept : opts.skips field.entry.status = false) :
    ∃ compiled, (m.compileField opts d node key field).outcome = .ok compiled ∧
      fields.find? key = some compiled := by
  have hmem := NameMap.find?_eq_some_iff.1 hfield
  obtain ⟨pairs, hpairs, h⟩ := Traced.outcome_bind_eq_ok_iff.1 h
  cases h
  obtain ⟨ps, hps⟩ := (Traced.outcome_collect hpairs).1 _ hmem
  obtain ⟨field', hrequire, hrest⟩ := Traced.outcome_bind_eq_ok_iff.1 hps
  cases hrequire.symm.trans (Directory.require_id field)
  rw [hkept] at hrest
  obtain ⟨compiled, hcompiled, hret⟩ := Traced.outcome_bind_eq_ok_iff.1 hrest
  cases hret
  refine ⟨compiled, hcompiled, NameMap.find?_ofList_of_collect Prod.fst hpairs ?_ hmem ?_ hps⟩
  · intro a ps hps p hp
    obtain ⟨field, -, hrest⟩ := Traced.outcome_bind_eq_ok_iff.1 hps
    split at hrest
    · cases hrest
      cases hp
    · obtain ⟨compiled, -, hret⟩ := Traced.outcome_bind_eq_ok_iff.1 hrest
      cases hret
      cases List.mem_singleton.1 hp
      rfl
  · intro a ha hkey
    exact NameMap.eq_of_mem_entries ha hmem hkey

theorem exists_of_compileFields_find? {node : Node s} {fields : NameMap CompiledField}
    (h : (m.compileFields opts d node).outcome = .ok fields) {key : String}
    {compiled : CompiledField} (hc : fields.find? key = some compiled) :
    ∃ field : Node s, d.fields.find? key = some field.id ∧
      opts.skips field.entry.status = false ∧
      (m.compileField opts d node key field).outcome = .ok compiled := by
  obtain ⟨pairs, hpairs, h⟩ := Traced.outcome_bind_eq_ok_iff.1 h
  cases h
  obtain ⟨⟨key', i⟩, hmem, ps, hps, hin⟩ := NameMap.exists_of_find?_ofList_collect hpairs hc
  obtain ⟨field, hrequire, hrest⟩ := Traced.outcome_bind_eq_ok_iff.1 hps
  have hid : field.id = i := Directory.require_eq_ok_iff.1 hrequire
  split at hrest
  case isTrue =>
    cases hrest
    cases hin
  case isFalse hkept =>
    obtain ⟨compiled', hcompiled, hret⟩ := Traced.outcome_bind_eq_ok_iff.1 hrest
    cases hret
    cases List.mem_singleton.1 hin
    exact ⟨field, hid ▸ NameMap.find?_eq_some_iff.2 hmem, by simpa using hkept, hcompiled⟩

/-- All that a compiled field is made of. -/
theorem compileField_eq_ok {node field : Node s} {key : String} {compiled : CompiledField}
    (h : (m.compileField opts d node key field).outcome = .ok compiled) :
    ∃ mapped shadow, d.mappedPaths s key opts.compressPaths .primary opts.pathMode = .ok mapped ∧
      d.shadowPaths s key opts = .ok shadow ∧
      (m.fieldType opts d node field).outcome = .ok compiled.langType ∧
      m.fieldName field = .ok compiled.name ∧
      compiled = { compiled with
        facts := .ofNode opts field
        kind := .ofEntryKind field.kind
        mappedPaths := mapped.map MappedPath.path
        mappedPathModules := mapped.map MappedPath.modules
        shadowMappedPaths := shadow.map MappedPath.path
        shadowMappedPathModules := shadow.map MappedPath.modules
        flags := m.fieldFlags { compiled with flags := .empty } field } := by
  obtain ⟨mapped, hmapped, h⟩ := Traced.outcome_bind_eq_ok_iff.1 h
  obtain ⟨shadow, hshadow, h⟩ := Traced.outcome_bind_eq_ok_iff.1 h
  obtain ⟨langType, htype, h⟩ := Traced.outcome_bind_eq_ok_iff.1 h
  obtain ⟨name, hname, h⟩ := Traced.outcome_bind_eq_ok_iff.1 h
  obtain ⟨flags, hflags, h⟩ := Traced.outcome_bind_eq_ok_iff.1 h
  cases hflags
  cases h
  exact ⟨mapped, shadow, hmapped, hshadow, htype, outcome_ask_eq_ok_iff.1 hname, rfl⟩

theorem compileField_ok {node field : Node s} {key : String} {compiled : CompiledField}
    (h : (m.compileField opts d node key field).outcome = .ok compiled) :
    m.fieldName field = .ok compiled.name := by
  obtain ⟨-, -, -, -, -, hname, -⟩ := compileField_eq_ok h
  exact hname

theorem compileKeys_find? {node leaf : Node s} {listKeys : Option (NameMap ListKey)}
    (h : (m.compileKeys opts node).outcome = .ok listKeys) (hlist : node.entry.isList = true)
    {name : String} (hname : name ∈ node.entry.keys) (hleaf : node.dataChild? name = some leaf) :
    ∃ keys key, listKeys = some keys ∧ keys.find? name = some key ∧
      m.fieldName leaf = .ok key.name ∧ m.keyLeafType leaf opts = .ok key.langType := by
  simp only [compileKeys, hlist] at h
  obtain ⟨pairs, hpairs, h⟩ := Traced.outcome_bind_eq_ok_iff.1 h
  cases h
  obtain ⟨ps, hps⟩ := (Traced.outcome_collect hpairs).1 _ hname
  have hps' := hps
  simp only [hleaf] at hps'
  obtain ⟨keyName, hkeyName, hps'⟩ := Traced.outcome_bind_eq_ok_iff.1 hps'
  obtain ⟨langType, hlangType, hps'⟩ := Traced.outcome_bind_eq_ok_iff.1 hps'
  cases hps'
  refine ⟨_, ⟨keyName, langType⟩, rfl, NameMap.find?_ofList_of_collect id hpairs ?_ hname ?_ hps,
    outcome_ask_eq_ok_iff.1 hkeyName, outcome_ask_eq_ok_iff.1 hlangType⟩
  · intro a ps hps p hp
    split at hps
    · cases hps
      cases hp
    · obtain ⟨keyName, -, hps⟩ := Traced.outcome_bind_eq_ok_iff.1 hps
      obtain ⟨langType, -, hps⟩ := Traced.outcome_bind_eq_ok_iff.1 hps
      cases hps
      cases List.mem_singleton.1 hp
      rfl
  · intro a _ ha
    exact ha

/-- Where a key of a list ends up. -/
theorem exists_listKey_of_compile {directories : NameMap Directory}
    {out : NameMap CompiledDirectory} (h : m.compile s directories opts = .ok out) {path : String}
    (hd : directories.find? path = some d) {l leaf : Node s} (hentry : l.id = d.entry)
    (hlist : l.entry.isList = true) {key : String} (hkey : key ∈ l.entry.keys)
    (hleaf : l.dataChild? key = some leaf) :
    ∃ parsed keys listKey, out.find? path = some parsed ∧ parsed.listKeys = some keys ∧
      keys.find? key = some listKey ∧ m.fieldName leaf = .ok listKey.name ∧
      m.keyLeafType leaf opts = .ok listKey.langType := by
  obtain ⟨parsed, hparsed, hout⟩ := compile_find? h hd
  obtain ⟨node, bare, hnode, -, hkeys, rfl⟩ := compileDirectory_ok hparsed
  rw [← hentry, Directory.require_id] at hnode
  cases hnode
  obtain ⟨keys, listKey, hlistKeys, hlistKey, hname, htype⟩ :=
    compileKeys_find? hkeys hlist hkey hleaf
  exact ⟨_, keys, listKey, hout, hlistKeys, hlistKey, hname, htype⟩

end Mapper

end YangBind
