import YangBind.Directory.Basic

/-! The index of directories by display name. It exists only if no two directories share a name. -/

namespace YangBind

structure DirectoryIndex where
  orderedNames : List String
  byName : NameMap Directory
  deriving DecidableEq

namespace DirectoryIndex

/-- The paths of the directories of this name, in ascending order. -/
def producers (directories : NameMap Directory) (name : String) : List String :=
  (directories.entries.filter (·.2.name == name)).map Prod.fst

/-- A name that several directories have is a conflict; the least such name is reported. -/
def ofDirectories (directories : Option (NameMap Directory)) :
    Except BindError DirectoryIndex :=
  match directories with
  | none => .error .noDirectories
  | some directories =>
    let byName := NameMap.ofList (directories.values.map fun d => (d.name, d))
    match byName.keys.find? fun name => (producers directories name).length > 1 with
    | some name => .error (.nameConflict name (producers directories name))
    | none => .ok ⟨byName.keys, byName⟩

end DirectoryIndex

end YangBind
