import YangBind.Proofs.Schema.WrittenPath

/-! Paths of plain segments: names and dots joined by slashes, without qualifiers and predicates.
Such a path is cut into the segments it was joined from, each of which is its own local name, and as
an expression it goes down by each identifier. -/

namespace YangBind

open Text

namespace Text

/-- Whether a segment has no characters but those of identifiers, of which the dot is one. -/
def IsPlain (segment : String) : Prop := ∀ c ∈ segment.toList, identifierPart.contains c = true

instance : DecidablePred IsPlain := fun segment => List.decidableBAll _ segment.toList

namespace IsPlain

variable {segment : String} {segments : List String}

theorem not_mem (h : IsPlain segment) {c : Char} (hc : identifierPart.contains c = false) :
    c ∉ segment.toList := by
  intro hmem
  simp [h c hmem] at hc

theorem isTrimmed (h : IsPlain segment) : IsTrimmed segment.toList :=
  .of_forall fun c hc => isBlank_of_identifierPart (h c hc)

theorem localName_eq (h : IsPlain segment) : PathStep.localName segment = segment := by
  have hbefore : segment.toList.takeWhile (· != '[') = segment.toList :=
    takeWhile_bne_eq_self (h.not_mem (by decide))
  have hqualifier : segment.toList.dropWhile (· != ':') = [] :=
    dropWhile_bne_eq_nil (h.not_mem (by decide))
  simp [PathStep.localName, before, trim, hbefore, h.isTrimmed.trimChars_eq, after?, hqualifier]

theorem split_join (h : ∀ segment ∈ segments, IsPlain segment) (hne : segments ≠ []) :
    split '/' (join '/' segments) = segments :=
  Text.split_join hne fun segment hmem => (h segment hmem).not_mem (by decide)

theorem isTrimmed_join (h : ∀ segment ∈ segments, IsPlain segment) :
    IsTrimmed (join '/' segments).toList := by
  rw [toList_join]
  refine .intercalate (.of_forall (by simpa using (by decide : isBlank '/' = false))) ?_
  simpa using fun segment hmem => (h segment hmem).isTrimmed

theorem namesIn_join (h : ∀ segment ∈ segments, IsPlain segment) (hne : segments ≠ []) :
    namesIn (join '/' segments).toList = segments := by
  rw [← map_localName_split, String.ofList_toList, split_join h hne,
    List.map_congr_left fun segment hmem => (h segment hmem).localName_eq, List.map_id']

end IsPlain

namespace Identifier

variable (i : Identifier)

theorem isPlain_text : IsPlain i.text := fun _ hc => i.identifierPart_of_mem hc

/-- An identifier begins with no dot, so it is none of the steps that stay or go up. -/
theorem text_ne_of_dot {name : String} (h : ∀ c ∈ name.toList.head?, c = '.') : i.text ≠ name := by
  rintro rfl
  have hvalid := i.valid
  unfold isIdentifier at hvalid
  split at hvalid
  case h_1 => cases hvalid
  case h_2 c rest htext =>
    obtain rfl := h c (by simp [htext])
    simp [show identifierStart.contains '.' = false by decide] at hvalid

end Identifier

end Text

/-- The texts of identifiers. -/
def plainNames (names : List Identifier) : List String := names.map Identifier.text

theorem isPlain_of_mem_plainNames {names : List Identifier} {name : String}
    (h : name ∈ plainNames names) : IsPlain name := by
  obtain ⟨i, -, rfl⟩ := List.mem_map.1 h
  exact i.isPlain_text

theorem split_join_plainNames {names : List Identifier} (h : names ≠ []) :
    split '/' (join '/' (plainNames names)) = plainNames names :=
  IsPlain.split_join (fun _ => isPlain_of_mem_plainNames) (by simpa [plainNames] using h)

theorem PathStep.ofLocalName_identifier (i : Identifier) : ofLocalName i.text = .down i.text := by
  have hempty : i.text ≠ "" := by simpa using i.text_ne_empty
  have hdot : i.text ≠ "." := i.text_ne_of_dot (by simp)
  have hdots : i.text ≠ ".." := i.text_ne_of_dot (by simp)
  simp [ofLocalName, hempty, hdot, hdots]

namespace PathExpr

variable {first : String} {rest : List String}

theorem parse_join (h : ∀ segment ∈ first :: rest, IsPlain segment) (hfirst : first ≠ "") :
    parse (join '/' (first :: rest)) = .relative ((first :: rest).map .ofLocalName) := by
  have hhead : (join '/' (first :: rest)).toList.head? ≠ some '/' := by
    obtain ⟨c, cs, hc⟩ := List.exists_cons_of_ne_nil (l := first.toList) (by simpa using hfirst)
    have hslash := (h first List.mem_cons_self).not_mem (c := '/') (by decide)
    rw [hc, List.mem_cons, not_or] at hslash
    cases rest <;> simpa [List.intercalate, hc] using Ne.symm hslash.1
  rw [← String.ofList_toList (s := join '/' (first :: rest)),
    parse_of_head (IsPlain.isTrimmed_join h) hhead, IsPlain.namesIn_join h (List.cons_ne_nil _ _)]
  rfl

theorem parse_slash_join (h : ∀ segment ∈ first :: rest, IsPlain segment) :
    parse ("/" ++ join '/' (first :: rest)) = .absolute first (rest.map .ofLocalName) := by
  have hslash : IsTrimmed ['/'] := .of_forall (by simpa using (by decide : isBlank '/' = false))
  have htrim : IsTrimmed ('/' :: (join '/' (first :: rest)).toList) :=
    hslash.append (IsPlain.isTrimmed_join h)
  have htext : "/" ++ join '/' (first :: rest) =
      String.ofList ('/' :: (join '/' (first :: rest)).toList) := by
    apply String.toList_injective
    simp
  rw [htext, parse_slash htrim, IsPlain.namesIn_join h (List.cons_ne_nil _ _)]
  rfl

theorem parse_absolute_plainNames (first : Identifier) (rest : List Identifier) :
    parse ("/" ++ join '/' (plainNames (first :: rest))) =
      .absolute first.text ((plainNames rest).map .down) := by
  have hplain : ∀ segment ∈ plainNames (first :: rest), IsPlain segment :=
    fun _ => isPlain_of_mem_plainNames
  rw [plainNames, List.map_cons, parse_slash_join hplain]
  simp [plainNames, PathStep.ofLocalName_identifier]

end PathExpr

namespace Node

variable {s : Schema}

theorem walk?_append (n : Node s) (steps more : List PathStep) :
    n.walk? (steps ++ more) = (n.walk? steps).bind (·.walk? more) := by
  rw [walk?, List.foldlM_append]
  rfl

theorem walk?_down (n : Node s) (names : List String) :
    n.walk? (names.map .down) = n.descend? names := by
  induction names generalizing n with
  | nil => rfl
  | cons name rest ih =>
    rw [List.map_cons, walk?, List.foldlM_cons, descend?]
    exact congrArg (Option.bind (n.dataChild? name)) (funext ih)

end Node

end YangBind
