import YangBind.Schema.Draft

/-! Construction in place. A step looks at the draft and then changes it part by part. A step that
fails ends with a draft all the same, which has whatever was changed before the failure. -/

namespace YangBind

/-- A computation that changes a draft in place, and may fail on the way. -/
abbrev Building := EStateM SchemaError Draft

namespace Building

open Schema (Step)

/-- Puts an entry at the end of the table. -/
def push (e : Entry) : Building EntryId := do
  let d ← get
  set { d with schema.entries := d.schema.entries.push e }
  return d.nextId

def addModule (name : String) : Building EntryId := do
  let s := (← get).schema
  if s.moduleIndex.contains name then throw (.duplicateModule name)
  let id ← push (.ofModule name)
  modify fun d => { d with schema.modules := d.schema.modules ++ [id] }
  modify fun d => { d with schema.moduleIndex := d.schema.moduleIndex.insert name id }
  return id

/-- The entry is put at the end of the table before its parent gets to know of it. -/
def add (parent : EntryId) (spec : EntrySpec) : Building EntryId := do
  let s := (← get).schema
  match s.entry? parent with
  | none => throw (.unknownEntry parent)
  | some above =>
    if !above.kind.isDirectory then throw (.notADirectory above.name above.kind spec.name)
    if above.children.any fun c => (s.entry? c).any (·.name == spec.name) then
      throw (.duplicateChild above.name spec.name)
    let id ← push (spec.toEntry parent above.module)
    modify fun d =>
      { d with schema.entries := d.schema.entries.modify parent.index (·.addChild id) }
    return id

def perform : Step → Building EntryId
  | .module name => addModule name
  | .add parent spec => add parent spec

/-- Performs every step in turn on the draft that the one before it has left, whether that one has
failed or not. -/
def performAll (d : Draft) : List Step → List (Except SchemaError EntryId) × Draft
  | [] => ([], d)
  | step :: rest =>
    match (perform step).run d with
    | .ok id d' =>
      let (results, final) := performAll d' rest
      (.ok id :: results, final)
    | .error e d' =>
      let (results, final) := performAll d' rest
      (.error e :: results, final)

end Building

end YangBind
