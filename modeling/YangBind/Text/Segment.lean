/-! Text cut at a separator. Cutting keeps empty segments, so joining the segments again gives the
text back; the empty text has one segment, which is empty. -/

namespace YangBind.Text

def split (sep : Char) (s : String) : List String :=
  (s.toList.splitOn sep).map String.ofList

/-- The text before the first `sep`, or all of it. -/
def before (sep : Char) (s : String) : String :=
  String.ofList (s.toList.takeWhile (· != sep))

/-- The text after the first `sep`, or nothing if there is none. -/
def after? (sep : Char) (s : String) : Option String :=
  match s.toList.dropWhile (· != sep) with
  | [] => none
  | _ :: rest => some (String.ofList rest)

def join (sep : Char) (segments : List String) : String :=
  (String.singleton sep).intercalate segments

theorem split_ne_nil (sep : Char) (s : String) : split sep s ≠ [] := by
  simp [split]

@[simp] theorem toList_join (sep : Char) (segments : List String) :
    (join sep segments).toList = [sep].intercalate (segments.map String.toList) := by
  simp [join, String.toList_intercalate]

@[simp] theorem join_split (sep : Char) (s : String) : join sep (split sep s) = s := by
  apply String.toList_injective
  simp [split, List.intercalate_splitOn, Function.comp_def]

end YangBind.Text
