import YangBind.Schema.PathExpr
import YangBind.Proofs.Text.Blank
import YangBind.Proofs.Text.Segment

/-! The names that are read in the segments of a path expression. The blanks around an expression
fall to its outermost segments, from which they are trimmed in any case, so the names of an
expression are those of the text as it stands; trimming only matters for whether a slash comes
first. -/

namespace YangBind

open Text

namespace PathStep

variable {cs front back : List Char}

theorem localName_blanks_append (h : IsBlankText front) :
    localName (String.ofList (front ++ cs)) = localName (String.ofList cs) := by
  have hbracket : '[' ∉ front := h.not_mem (by decide)
  have htrim : trim (before '[' (String.ofList (front ++ cs))) =
      trim (before '[' (String.ofList cs)) := by
    simp [trim, before, List.takeWhile_append_of_pos (forall_bne_of_not_mem hbracket),
      trimChars_blanks_append h]
  rw [localName, htrim, ← localName]

theorem localName_append_blanks (h : IsBlankText back) :
    localName (String.ofList (cs ++ back)) = localName (String.ofList cs) := by
  have hbracket : '[' ∉ back := h.not_mem (by decide)
  have htrim : trim (before '[' (String.ofList (cs ++ back))) =
      trim (before '[' (String.ofList cs)) := by
    simp only [trim, before, String.toList_ofList, List.takeWhile_append,
      takeWhile_bne_eq_self hbracket]
    split
    case isTrue hlength =>
      rw [(List.takeWhile_prefix _).eq_of_length hlength, trimChars_append_blanks h]
    case isFalse => rfl
  rw [localName, htrim, ← localName]

end PathStep

/-- The names in the segments of a text. -/
def namesIn (cs : List Char) : List String :=
  (cs.splitOn '/').map fun segment => PathStep.localName (String.ofList segment)

theorem namesIn_ne_nil (cs : List Char) : namesIn cs ≠ [] := by
  simp [namesIn]

theorem namesIn_of_not_mem {cs : List Char} (h : '/' ∉ cs) :
    namesIn cs = [PathStep.localName (String.ofList cs)] := by
  rw [namesIn, List.splitOn_eq_singleton h, List.map_singleton]

theorem namesIn_append_slash (cs more : List Char) :
    namesIn (cs ++ '/' :: more) = namesIn cs ++ namesIn more := by
  rw [namesIn, List.splitOn_append_cons_self, List.map_append]
  rfl

theorem namesIn_slash (cs : List Char) : namesIn ('/' :: cs) = "" :: namesIn cs :=
  namesIn_append_slash [] cs

theorem namesIn_intercalate (cs : List Char) (more : List (List Char)) :
    namesIn (['/'].intercalate (cs :: more)) = (cs :: more).flatMap namesIn := by
  rw [namesIn, splitOn_intercalate_cons, List.map_flatMap]
  rfl

theorem map_localName_split (cs : List Char) :
    (Text.split '/' (String.ofList cs)).map PathStep.localName = namesIn cs := by
  simp [Text.split, namesIn, Function.comp_def]

section

variable {cs front back : List Char}

theorem namesIn_blanks_append (h : IsBlankText front) : namesIn (front ++ cs) = namesIn cs := by
  have hslash : '/' ∉ front := h.not_mem (by decide)
  have hsegment : ∀ cs, '/' ∉ cs → namesIn (front ++ cs) = namesIn cs := by
    intro cs hcs
    rw [namesIn_of_not_mem (by simp [hslash, hcs]), namesIn_of_not_mem hcs,
      PathStep.localName_blanks_append h]
  -- the segment that takes the blanks is the one before the first slash
  by_cases hcs : '/' ∈ cs
  · obtain ⟨first, rest, rfl, hfirst⟩ := List.eq_append_cons_of_mem hcs
    rw [← List.append_assoc, namesIn_append_slash, namesIn_append_slash, hsegment first hfirst]
  · exact hsegment cs hcs

theorem namesIn_append_blanks (h : IsBlankText back) : namesIn (cs ++ back) = namesIn cs := by
  have hslash : '/' ∉ back := h.not_mem (by decide)
  have hsegment : ∀ cs, '/' ∉ cs → namesIn (cs ++ back) = namesIn cs := by
    intro cs hcs
    rw [namesIn_of_not_mem (by simp [hslash, hcs]), namesIn_of_not_mem hcs,
      PathStep.localName_append_blanks h]
  -- and here it is the one behind the last slash
  by_cases hcs : '/' ∈ cs
  · obtain ⟨front, last, rfl, hlast⟩ := exists_last_segment hcs
    rw [List.append_assoc, List.cons_append, namesIn_append_slash, namesIn_append_slash,
      hsegment last hlast]
  · exact hsegment cs hcs

/-- Trimming the whole of an expression is of no account for the names in it. -/
theorem namesIn_trimChars (cs : List Char) : namesIn (trimChars cs) = namesIn cs := by
  obtain ⟨front, back, hfront, hback, hcs⟩ := exists_blanks_trimChars cs
  conv => rhs; rw [hcs]
  rw [namesIn_blanks_append hfront, namesIn_append_blanks hback]

end

/-- The expression in which these names are read. -/
def PathExpr.ofNames : Bool → List String → PathExpr
  | true, first :: rest => .absolute first (rest.map .ofLocalName)
  | _, names => .relative (names.map .ofLocalName)

namespace PathExpr

variable {text : String} {cs : List Char}

theorem parse_of_relative (h : (trim text).toList.head? ≠ some '/') :
    parse text = .ofNames false (namesIn text.toList) := by
  simp only [trim, String.toList_ofList] at h
  simp only [parse, trim, String.toList_ofList, map_localName_split, namesIn_trimChars, ofNames]
  split
  case h_1 hslash _ => exact absurd hslash h
  case h_2 => rfl

/-- Before the slash that an absolute expression begins with stands an empty segment, and after it
at least one other. -/
theorem namesIn_of_absolute (h : (trim text).toList.head? = some '/') :
    ∃ first rest, namesIn text.toList = "" :: first :: rest := by
  rw [trim, String.toList_ofList] at h
  obtain ⟨cs, hcs⟩ := List.head?_eq_some_iff.1 h
  obtain ⟨first, rest, hnames⟩ := List.exists_cons_of_ne_nil (namesIn_ne_nil cs)
  exact ⟨first, rest, by rw [← namesIn_trimChars, hcs, namesIn_slash, hnames]⟩

theorem parse_of_absolute (h : (trim text).toList.head? = some '/') :
    parse text = .ofNames true (namesIn text.toList).tail := by
  obtain ⟨first, rest, hnames⟩ := namesIn_of_absolute h
  simp only [trim, String.toList_ofList] at h
  simp only [parse, trim, String.toList_ofList, map_localName_split, namesIn_trimChars, h, hnames,
    List.tail_cons, ofNames]

theorem parse_slash (h : IsTrimmed ('/' :: cs)) :
    parse (String.ofList ('/' :: cs)) = .ofNames true (namesIn cs) := by
  have htrim : (trim (String.ofList ('/' :: cs))).toList.head? = some '/' := by
    simp [trim, h.trimChars_eq]
  rw [parse_of_absolute htrim, String.toList_ofList, namesIn_slash, List.tail_cons]

theorem parse_of_head (h : IsTrimmed cs) (hhead : cs.head? ≠ some '/') :
    parse (String.ofList cs) = .ofNames false (namesIn cs) := by
  have htrim : (trim (String.ofList cs)).toList.head? ≠ some '/' := by
    simpa [trim, h.trimChars_eq] using hhead
  rw [parse_of_relative htrim, String.toList_ofList]

end PathExpr

end YangBind
