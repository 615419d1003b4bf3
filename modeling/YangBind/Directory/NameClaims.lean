import YangBind.Directory.Index

/-! The index of directories that come in any order. They are sorted by path and gone through once:
each directory claims its name, and a name keeps the paths that claimed it, in turn, and the
directory that was the first to do so. -/

namespace YangBind

/-- What a pass over directories has noted of their names. -/
structure NameClaims where
  paths : NameMap (List String)
  first : NameMap Directory
  deriving DecidableEq

namespace NameClaims

def empty : NameClaims := ⟨.empty, .empty⟩

def add (c : NameClaims) (path : String) (d : Directory) : NameClaims where
  paths := c.paths.insert d.name ((c.paths.find? d.name).getD [] ++ [path])
  first := if c.first.contains d.name then c.first else c.first.insert d.name d

def ofList (directories : List (String × Directory)) : NameClaims :=
  directories.foldl (fun c e => c.add e.1 e.2) empty

/-- The names in order, each with the paths that claimed it. -/
def claimed (c : NameClaims) : List (String × List String) :=
  c.first.keys.filterMap fun name => (c.paths.find? name).map fun paths => (name, paths)

/-- The first name in order that several paths have claimed is a conflict. -/
def index (c : NameClaims) : Except BindError DirectoryIndex :=
  match c.claimed.find? fun e => e.2.length > 1 with
  | some (name, paths) => .error (.nameConflict name paths)
  | none => .ok ⟨c.first.keys, c.first⟩

end NameClaims

namespace DirectoryIndex

def ofUnordered (directories : List (String × Directory)) : Except BindError DirectoryIndex :=
  (NameClaims.ofList (directories.mergeSort fun a b => a.1 ≤ b.1)).index

end DirectoryIndex

end YangBind
