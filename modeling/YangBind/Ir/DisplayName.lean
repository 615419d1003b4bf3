import YangBind.Text.LetterCase
import YangBind.Ir.Basic

/-! Display names without collisions. Names collide if their lower cases are equal. Keys are served
in ascending order: the first one of a name has it as it is, the nth later one gets n underscores
at the end, and more of them while the result is taken already. -/

namespace YangBind.DisplayName

/-- What collision means: names with one folding collide. -/
def fold (name : String) : String := Text.lower name

def underscores (n : Nat) : String := String.ofList (List.replicate n '_')

/-- The name with underscores at its end until its folding is not taken; at most `tries` of them. -/
def extend (taken : List String) : Nat → String → String
  | 0, name => name
  | tries + 1, name =>
    if fold name ∈ taken then extend taken tries (name ++ "_") else name

/-- The name with the fewest underscores at its end whose folding is not taken. One try for each
folding that is taken suffices. -/
def firstFree (taken : List String) (name : String) : String := extend taken taken.length name

/-- Serves the keys in order, where `seen` are the foldings of the names intended so far and `taken`
those of the names given. -/
def assignFrom (seen taken : List String) : List (String × String) → List (String × String)
  | [] => []
  | (key, intended) :: rest =>
    let folded := fold intended
    let name := firstFree taken (intended ++ underscores (seen.count folded))
    (key, name) :: assignFrom (folded :: seen) (fold name :: taken) rest

theorem map_fst_assignFrom (seen taken : List String) (l : List (String × String)) :
    (assignFrom seen taken l).map Prod.fst = l.map Prod.fst := by
  induction l generalizing seen taken with
  | nil => rfl
  | cons e rest ih => simp [assignFrom, ih]

def assign (intended : NameMap String) : NameMap String where
  entries := assignFrom [] [] intended.entries
  ascending := by
    have h := intended.keys_pairwise
    rw [NameMap.keys, ← map_fst_assignFrom [] []] at h
    exact List.pairwise_map.1 h

@[simp] theorem keys_assign (intended : NameMap String) :
    (assign intended).keys = intended.keys :=
  map_fst_assignFrom [] [] intended.entries

end DisplayName

namespace CompiledDirectory

def displayNames (d : CompiledDirectory) : NameMap String :=
  DisplayName.assign (d.fields.map fun _ field => field.name)

def rename (d : CompiledDirectory) : CompiledDirectory :=
  let names := d.displayNames
  { d with fields := d.fields.map fun key field =>
      { field with name := (names.find? key).getD field.name } }

end YangBind.CompiledDirectory
