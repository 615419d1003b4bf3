import YangBind.Json.Value
import YangBind.Schema.Entry

/-! Schema paths and schema entries as JSON. -/

namespace YangBind

open JsonCodec (encode)

instance : JsonCodec EntryId where
  encode i := encode i.raw
  decode j := (JsonCodec.decode j).map EntryId.mk

instance : JsonCodec SchemaPath where
  encode p := .object [("segments", encode p.segments)]
  decode j := do
    let r ← JsonRecord.ofJson? 1 j
    return ⟨← r.required 0 "segments"⟩

namespace EntryKind

def tag : EntryKind → String
  | .module => "Module"
  | .container => "Container"
  | .list => "List"
  | .leaf => "Leaf"
  | .leafList => "LeafList"
  | .choice => "Choice"
  | .case => "Case"
  | .anyData => "AnyData"

instance : JsonCodec EntryKind :=
  .ofTags [.module, .container, .list, .leaf, .leafList, .choice, .case, .anyData] tag

end EntryKind

namespace Status

def tag : Status → String
  | .current => "Current"
  | .deprecated => "Deprecated"
  | .obsolete => "Obsolete"

instance : JsonCodec Status := .ofTags [.current, .deprecated, .obsolete] tag

end Status

/-- The constructor is the name of the only field; a leafref has an object there, and the path in it
goes by name. -/
instance : JsonCodec LeafType where
  encode
    | .named name => .object [("Named", encode name)]
    | .leafref path => .object [("Leafref", .object [("path", encode path)])]
  decode
    | .object [("Named", j)] => (JsonCodec.decode j).map LeafType.named
    | .object [("Leafref", .object fields)] =>
      ((JsonRecord.named fields).required 0 "path").map LeafType.leafref
    | _ => none

instance : JsonCodec Entry where
  encode e := .object [
    ("name", encode e.name),
    ("kind", encode e.kind),
    ("parent", encode e.parent),
    ("children", encode e.children),
    ("status", encode e.status),
    ("module", encode e.module),
    ("defining_module", encode e.definingModule),
    ("leaf_type", encode e.leafType),
    ("keys", encode e.keys),
    ("defaults", encode e.defaults),
    ("description", encode e.description),
    ("config", encode e.config),
    ("presence", encode e.presence),
    ("ordered_by_user", encode e.orderedByUser)]
  decode j := do
    let r ← JsonRecord.ofJson? 14 j
    return {
      name := ← r.required 0 "name"
      kind := ← r.required 1 "kind"
      parent := ← r.optional 2 "parent"
      children := ← r.required 3 "children"
      status := ← r.required 4 "status"
      module := ← r.required 5 "module"
      definingModule := ← r.optional 6 "defining_module"
      leafType := ← r.optional 7 "leaf_type"
      keys := ← r.required 8 "keys"
      defaults := ← r.required 9 "defaults"
      description := ← r.optional 10 "description"
      config := ← r.optional 11 "config"
      presence := ← r.optional 12 "presence"
      orderedByUser := ← r.required 13 "ordered_by_user" }

end YangBind
