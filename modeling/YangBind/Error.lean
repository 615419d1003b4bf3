import YangBind.Text.Quoted
import YangBind.Schema.Entry

/-! Why a compilation fails. Every failure ends the whole compilation. -/

namespace YangBind

/-- A mapper's refusal of a node, in the mapper's own words. -/
structure MapperError where
  message : String
  deriving DecidableEq

inductive BindError
  | noDirectories
  | nameConflict (name : String) (paths : List String)
  | missingField (field : String) (directory : String)
  /-- A field that does not lie below its directory. -/
  | invalidPath (field directory : SchemaPath)
  | unknownEntry (id : EntryId)
  | mapper (cause : MapperError)
  deriving DecidableEq

namespace BindError

open Text in
def message : BindError → String
  | .noDirectories => "directory map null"
  | .nameConflict name paths =>
    let producers := ", ".intercalate paths
    s!"directory name conflict(s) exist: {quoted name} is produced by {producers}"
  | .missingField field directory =>
    s!"field name {quoted field} does not exist in Directory {directory}"
  | .invalidPath field directory => s!"field {field} is not a valid child of {directory}"
  | .unknownEntry id => s!"entry id {id} is not part of the schema tree"
  | .mapper cause => cause.message

end BindError

end YangBind
