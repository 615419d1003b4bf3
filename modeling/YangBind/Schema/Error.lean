import YangBind.Text.Quoted
import YangBind.Schema.Entry

/-! Why a schema cannot be put together. -/

namespace YangBind

inductive SchemaError
  | duplicateModule (name : String)
  | unknownEntry (id : EntryId)
  /-- A child under a node that holds none. -/
  | notADirectory (parent : String) (kind : EntryKind) (child : String)
  | duplicateChild (parent : String) (name : String)
  /-- A key of a list that no data child of the list bears. -/
  | missingKey (list : SchemaPath) (key : String)
  | unresolvedLeafref (leaf : SchemaPath) (target : String)
  deriving DecidableEq

namespace SchemaError

open Text in
def message : SchemaError → String
  | .duplicateModule name => s!"module {quoted name} is already defined"
  | .unknownEntry id => s!"entry id {id} does not belong to this schema tree"
  | .notADirectory parent kind child =>
    s!"cannot add {quoted child} under {parent} ({kind}): not a directory node"
  | .duplicateChild parent name => s!"{parent} already has a child named {quoted name}"
  | .missingKey list key =>
    s!"list {list} declares key {quoted key} which is not one of its leaves"
  | .unresolvedLeafref leaf target =>
    s!"leafref {leaf} points at {quoted target}, which does not exist"

end SchemaError

end YangBind
