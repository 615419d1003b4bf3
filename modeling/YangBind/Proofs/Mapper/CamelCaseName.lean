import YangBind.Mapper.CamelCase
import YangBind.Proofs.Text.LetterCase
import YangBind.Proofs.Text.Segment

/-! Names in upper camel case. Camel case forgets where a name was divided and by which divider: it
takes names joined by a divider to the names in camel case run together. Names that differ in their
dividers or in the capitals of their words come out the same. -/

namespace YangBind

namespace Text

theorem upperChar_ne_nil (c : Char) : upperChar c ≠ [] := by
  unfold upperChar
  split
  case isTrue => exact List.cons_ne_nil _ _
  case isFalse => exact upperMapping.apply_ne_nil (by decide +kernel) c

/-- In ASCII a capital is one character, and its own capital. -/
theorem upperChar_of_ascii {c : Char} (hc : c.toNat < 0x80) :
    upperChar c = [c.toUpper] ∧ upperChar c.toUpper = [c.toUpper] :=
  forall_ascii (P := fun c => upperChar c = [c.toUpper] ∧ upperChar c.toUpper = [c.toUpper])
    (by decide +kernel) hc

end Text

namespace CamelCase

open Text

theorem isDivider_iff {c : Char} : isDivider c = true ↔ c = '-' ∨ c = '.' := by
  simp [isDivider]

/-- Only a divider has a divider for its capital. -/
theorem isDivider_of_mem_upperChar {c d : Char} (hd : isDivider d = true) (h : d ∈ upperChar c) :
    isDivider c = true := by
  unfold upperChar at h
  split at h
  case isTrue hc =>
    obtain rfl := List.mem_singleton.1 h
    exact forall_ascii (P := fun c => isDivider c.toUpper = true → isDivider c = true)
      (by decide +kernel) hc hd
  case isFalse =>
    have hdash : upperMapping.Spares '-' := by decide +kernel
    have hdot : upperMapping.Spares '.' := by decide +kernel
    obtain rfl | rfl := isDivider_iff.1 hd
    · exact hdash.eq_of_mem_apply (by decide) h ▸ hd
    · exact hdot.eq_of_mem_apply (by decide) h ▸ hd

theorem capitalize_eq_nil_iff {word : List Char} : capitalize word = [] ↔ word = [] := by
  cases word with
  | nil => simp [capitalize]
  | cons c rest => simp [capitalize, upperChar_ne_nil]

theorem isDivider_of_mem_capitalize {word : List Char} (hword : ∀ c ∈ word, isDivider c = false) :
    ∀ c ∈ capitalize word, isDivider c = false := by
  cases word with
  | nil => simp [capitalize]
  | cons first rest =>
    intro c hc
    obtain hc | hc := List.mem_append.1 hc
    · cases hd : isDivider c with
      | false => rfl
      | true =>
        have hfirst := isDivider_of_mem_upperChar hd hc
        rw [hword first List.mem_cons_self] at hfirst
        cases hfirst
    · exact hword c (List.mem_cons_of_mem _ hc)

/-- Whether a text begins with its own capital, or is empty. -/
def IsCapitalized (cs : List Char) : Prop := ∀ c ∈ cs.head?, upperChar c = [c]

theorem IsCapitalized.capitalize_eq {cs : List Char} (h : IsCapitalized cs) :
    capitalize cs = cs := by
  cases cs with
  | nil => rfl
  | cons c rest => rw [capitalize, h c rfl, List.singleton_append]

theorem IsCapitalized.append {cs more : List Char} (h : IsCapitalized cs)
    (hmore : IsCapitalized more) : IsCapitalized (cs ++ more) := by
  cases cs with
  | nil => exact hmore
  | cons c rest => exact h

theorem IsCapitalized.flatMap {words : List (List Char)}
    (h : ∀ word ∈ words, IsCapitalized (capitalize word)) :
    IsCapitalized (words.flatMap capitalize) := by
  induction words with
  | nil => simp [IsCapitalized]
  | cons word words ih =>
    rw [List.flatMap_cons]
    exact (h word List.mem_cons_self).append
      (ih fun word hword => h word (List.mem_cons_of_mem _ hword))

theorem isCapitalized_capitalize {word : List Char} (h : ∀ c ∈ word, c.toNat < 0x80) :
    IsCapitalized (capitalize word) := by
  cases word with
  | nil => simp [IsCapitalized, capitalize]
  | cons c rest =>
    obtain ⟨hupper, hself⟩ := upperChar_of_ascii (h c List.mem_cons_self)
    simp [IsCapitalized, capitalize, hupper, hself]

theorem toList_camelCase (name : String) :
    (camelCase name).toList = (name.toList.splitOnP isDivider).flatMap capitalize := by
  simp [camelCase]

/-- A name without dividers is one word. -/
theorem camelCase_of_word {name : String} (h : ∀ c ∈ name.toList, isDivider c = false) :
    camelCase name = String.ofList (capitalize name.toList) := by
  simp [camelCase, List.splitOnP_eq_singleton h]

theorem camelCase_append {d : Char} (hd : isDivider d = true) (a b : String) :
    camelCase (a ++ String.singleton d ++ b) = camelCase a ++ camelCase b := by
  apply String.toList_injective
  simp [toList_camelCase, List.splitOnP_append_cons _ _ hd]

theorem isDivider_of_mem_camelCase (name : String) :
    ∀ c ∈ (camelCase name).toList, isDivider c = false := by
  intro c hc
  rw [toList_camelCase, List.mem_flatMap] at hc
  obtain ⟨word, hword, hc⟩ := hc
  exact isDivider_of_mem_capitalize (fun _ => eq_false_of_mem_splitOnP hword) c hc

theorem camelCase_eq_empty_iff {name : String} :
    camelCase name = "" ↔ ∀ c ∈ name.toList, isDivider c = true := by
  rw [← String.toList_inj, toList_camelCase, String.toList_empty, List.flatMap_eq_nil_iff]
  simp only [capitalize_eq_nil_iff]
  rw [← List.flatten_eq_nil_iff, flatten_splitOnP, List.filter_eq_nil_iff]
  simp

theorem camelCase_camelCase {name : String} (h : ∀ c ∈ name.toList, c.toNat < 0x80) :
    camelCase (camelCase name) = camelCase name := by
  have hcapital : IsCapitalized (camelCase name).toList := by
    rw [toList_camelCase]
    refine .flatMap fun word hword => isCapitalized_capitalize fun c hc => h c ?_
    -- a character of a word is one of the name
    have hmem : c ∈ (name.toList.splitOnP isDivider).flatten := List.mem_flatten_of_mem hword hc
    rw [flatten_splitOnP] at hmem
    exact (List.mem_filter.1 hmem).1
  rw [camelCase_of_word (isDivider_of_mem_camelCase name), hcapital.capitalize_eq,
    String.ofList_toList]

/-- A word gets its capital, and joining by a divider becomes running together; these two laws say
what camel case is. It leaves no divider, comes to nothing for dividers alone, and changes no ASCII
name that is in camel case. -/
theorem camelCase_laws :
    (∀ word : String, (∀ c ∈ word.toList, c ≠ '-' ∧ c ≠ '.') →
      camelCase word = String.ofList (capitalize word.toList)) ∧
    (∀ a b : String, camelCase (a ++ "-" ++ b) = camelCase a ++ camelCase b ∧
      camelCase (a ++ "." ++ b) = camelCase a ++ camelCase b) ∧
    (∀ a : String, '-' ∉ (camelCase a).toList ∧ '.' ∉ (camelCase a).toList) ∧
    (∀ a : String, camelCase a = "" ↔ ∀ c ∈ a.toList, c = '-' ∨ c = '.') ∧
    ∀ a : String, (∀ c ∈ a.toList, c.toNat < 0x80) → camelCase (camelCase a) = camelCase a := by
  refine ⟨fun word h => ?_, fun a b => ⟨?_, ?_⟩, fun a => ⟨?_, ?_⟩, fun a => ?_, fun a h => ?_⟩
  · refine camelCase_of_word fun c hc => ?_
    simpa [isDivider] using h c hc
  · exact camelCase_append (d := '-') rfl a b
  · exact camelCase_append (d := '.') rfl a b
  · intro h
    simpa [isDivider] using isDivider_of_mem_camelCase a '-' h
  · intro h
    simpa [isDivider] using isDivider_of_mem_camelCase a '.' h
  · simp only [camelCase_eq_empty_iff, isDivider_iff]
  · exact camelCase_camelCase h

/-- A name whose first letter has two letters for its capital, and an ASCII name. -/
theorem camelCase_laws_sharpS :
    camelCase "ß" = "SS" ∧ camelCase ("ß" ++ "-" ++ "x.y") = "SS" ++ "XY" ∧
      camelCase (camelCase "--th-e.x.") = "ThEX" := by
  obtain ⟨hword, hjoin, -, -, hagain⟩ := camelCase_laws
  have hsharp : camelCase "ß" = "SS" := (hword "ß" (by simp)).trans (by decide +kernel)
  have hxy : camelCase "x.y" = "XY" := by decide +kernel
  refine ⟨hsharp, ?_, ?_⟩
  · rw [(hjoin "ß" "x.y").1, hsharp, hxy]
  · exact (hagain "--th-e.x." (by simp)).trans (by decide +kernel)

end CamelCase

end YangBind
