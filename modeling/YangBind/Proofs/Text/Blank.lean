import Mathlib.Data.List.TakeWhile
import YangBind.Text.Blank

/-! Trimming. Text that is trimmed already stays as it is; blanks put before or behind a text are of
no account, and a text is its trimmed part with blanks around it. -/

namespace YangBind.Text

/-- Text with no blank at either end. -/
structure IsTrimmed (cs : List Char) : Prop where
  head : ∀ c ∈ cs.head?, isBlank c = false
  last : ∀ c ∈ cs.getLast?, isBlank c = false

namespace IsTrimmed

theorem of_forall {cs : List Char} (h : ∀ c ∈ cs, isBlank c = false) : IsTrimmed cs where
  head c hc := h c (List.mem_of_head? hc)
  last c hc := h c (List.mem_of_getLast? hc)

theorem append {cs more : List Char} (h : IsTrimmed cs) (hmore : IsTrimmed more) :
    IsTrimmed (cs ++ more) where
  head c hc := by
    rw [List.head?_append, Option.mem_def, Option.or_eq_some_iff] at hc
    obtain hc | ⟨-, hc⟩ := hc
    · exact h.head c hc
    · exact hmore.head c hc
  last c hc := by
    rw [List.getLast?_append, Option.mem_def, Option.or_eq_some_iff] at hc
    obtain hc | ⟨-, hc⟩ := hc
    · exact hmore.last c hc
    · exact h.last c hc

theorem flatMap {α : Type} {f : α → List Char} {l : List α} (h : ∀ a ∈ l, IsTrimmed (f a)) :
    IsTrimmed (l.flatMap f) := by
  induction l with
  | nil => exact of_forall (by simp)
  | cons a l ih =>
    exact (h a List.mem_cons_self).append (ih fun b hb => h b (List.mem_cons_of_mem a hb))

theorem intercalate {sep : List Char} {l : List (List Char)} (hsep : IsTrimmed sep)
    (h : ∀ cs ∈ l, IsTrimmed cs) : IsTrimmed (sep.intercalate l) := by
  induction l with
  | nil => exact of_forall (by simp)
  | cons cs l ih =>
    have hcs := h cs List.mem_cons_self
    have hl := ih fun ds hds => h ds (List.mem_cons_of_mem cs hds)
    cases l with
    | nil => simpa [List.intercalate] using hcs
    | cons ds l => simpa [List.intercalate] using hcs.append (hsep.append hl)

theorem trimChars_eq {cs : List Char} (h : IsTrimmed cs) : trimChars cs = cs := by
  have hdrop : ∀ {l : List Char}, (∀ c ∈ l.head?, isBlank c = false) →
      l.dropWhile isBlank = l := by
    intro l hl
    cases l with
    | nil => rfl
    | cons c rest => exact List.dropWhile_cons_of_neg (by simp [hl c rfl])
  rw [trimChars, hdrop h.head, hdrop (by simpa using h.last), List.reverse_reverse]

theorem trim_eq {s : String} (h : IsTrimmed s.toList) : trim s = s := by
  rw [trim, h.trimChars_eq, String.ofList_toList]

end IsTrimmed

theorem dropWhile_concat {p : Char → Bool} {c : Char} (h : p c = false) (cs : List Char) :
    (cs ++ [c]).dropWhile p = cs.dropWhile p ++ [c] := by
  rw [List.dropWhile_append]
  split
  case isTrue hnil => simp [List.isEmpty_iff.1 hnil, h]
  case isFalse => rfl

/-- Whether a text has no characters but blanks. -/
def IsBlankText (cs : List Char) : Prop := ∀ c ∈ cs, isBlank c = true

variable {cs front back : List Char}

theorem isBlankText_takeWhile (cs : List Char) : IsBlankText (cs.takeWhile isBlank) :=
  List.all_eq_true.1 List.all_takeWhile

theorem IsBlankText.not_mem (h : IsBlankText cs) {c : Char} (hc : isBlank c = false) : c ∉ cs := by
  intro hmem
  simp [h c hmem] at hc

theorem trimChars_blanks_append (h : IsBlankText front) :
    trimChars (front ++ cs) = trimChars cs := by
  rw [trimChars, List.dropWhile_append_of_pos h, ← trimChars]

theorem trimChars_append_blanks (h : IsBlankText back) :
    trimChars (cs ++ back) = trimChars cs := by
  have hback : back.dropWhile isBlank = [] := List.dropWhile_eq_nil_iff.2 h
  rw [trimChars, trimChars, List.dropWhile_append, hback]
  split
  case isTrue hcs => rw [List.isEmpty_iff.1 hcs]
  case isFalse =>
    rw [List.reverse_append, List.dropWhile_append_of_pos fun c hc => h c (List.mem_reverse.1 hc)]

/-- A text is its trimmed part with blanks around it. -/
theorem exists_blanks_trimChars (cs : List Char) :
    ∃ front back, IsBlankText front ∧ IsBlankText back ∧ cs = front ++ (trimChars cs ++ back) := by
  let rest := cs.dropWhile isBlank
  refine ⟨cs.takeWhile isBlank, (rest.reverse.takeWhile isBlank).reverse,
    isBlankText_takeWhile cs, ?_, ?_⟩
  · intro c hc
    exact isBlankText_takeWhile _ c (List.mem_reverse.1 hc)
  · rw [trimChars, ← List.reverse_append, List.takeWhile_append_dropWhile, List.reverse_reverse,
      List.takeWhile_append_dropWhile]

theorem head?_trimChars (cs : List Char) : (trimChars cs).head? = (cs.dropWhile isBlank).head? := by
  cases hrest : cs.dropWhile isBlank with
  | nil => simp [trimChars, hrest]
  | cons c rest =>
    have hc : isBlank c = false := by
      have hhead := List.head?_dropWhile_not isBlank cs
      rwa [hrest] at hhead
    rw [trimChars, hrest, List.reverse_cons, dropWhile_concat hc]
    simp

theorem head?_trim_append {p : String} (hp : trim p ≠ "") (more : String) :
    (trim (p ++ more)).toList.head? = (trim p).toList.head? := by
  simp only [trim, String.toList_ofList, head?_trimChars, String.toList_append,
    List.dropWhile_append, List.isEmpty_iff]
  cases hrest : p.toList.dropWhile isBlank with
  | nil => exact absurd (by simp [trim, trimChars, hrest]) hp
  | cons c rest => rfl

end YangBind.Text
