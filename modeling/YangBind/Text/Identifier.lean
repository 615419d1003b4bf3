import YangBind.Text.Blank

/-! Identifiers: a letter or an underscore, and after it letters, digits, underscores, dashes and
dots. -/

namespace YangBind.Text

def identifierStart : CharClass where
  ranges := [(0x41, 0x5a), (0x5f, 0x5f), (0x61, 0x7a)]

def identifierPart : CharClass where
  ranges := [(0x2d, 0x2e), (0x30, 0x39), (0x41, 0x5a), (0x5f, 0x5f), (0x61, 0x7a)]

def isIdentifier (s : String) : Bool :=
  match s.toList with
  | [] => false
  | c :: rest => identifierStart.contains c && rest.all identifierPart.contains

theorem identifierPart_of_identifierStart {c : Char} (h : identifierStart.contains c = true) :
    identifierPart.contains c = true := by
  simp only [CharClass.contains, identifierStart, identifierPart, List.any_cons, List.any_nil,
    Bool.or_false, Bool.or_eq_true, Bool.and_eq_true, decide_eq_true_eq] at h ⊢
  omega

theorem isBlank_of_identifierPart {c : Char} (h : identifierPart.contains c = true) :
    isBlank c = false := by
  rw [Bool.eq_false_iff]
  simp only [isBlank, whiteSpace, CharClass.contains, identifierPart, List.any_cons, List.any_nil,
    Bool.or_false, Bool.or_eq_true, Bool.and_eq_true, decide_eq_true_eq, ne_eq] at h ⊢
  omega

structure Identifier where
  text : String
  valid : isIdentifier text = true

namespace Identifier

theorem text_ne_empty (i : Identifier) : i.text.toList ≠ [] := by
  have h := i.valid
  unfold isIdentifier at h
  split at h
  · cases h
  · simp [*]

theorem identifierPart_of_mem (i : Identifier) {c : Char} (hc : c ∈ i.text.toList) :
    identifierPart.contains c = true := by
  have h := i.valid
  unfold isIdentifier at h
  split at h
  case h_1 => cases h
  case h_2 first rest htext =>
    rw [Bool.and_eq_true, List.all_eq_true] at h
    rw [htext] at hc
    obtain rfl | hc := List.mem_cons.1 hc
    · exact identifierPart_of_identifierStart h.1
    · exact h.2 c hc

end Identifier

end YangBind.Text
