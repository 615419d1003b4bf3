import YangBind.Text.Segment

/-! Cutting text at a separator. No piece holds the separator, and pieces without it are found again
in the text they are joined to. -/

namespace YangBind.Text

theorem forall_bne_of_not_mem {c : Char} {cs : List Char} (h : c ∉ cs) :
    ∀ d ∈ cs, (d != c) = true := by
  rintro d hd
  rw [bne_iff_ne]
  rintro rfl
  exact h hd

theorem takeWhile_bne_eq_self {c : Char} {cs : List Char} (h : c ∉ cs) :
    cs.takeWhile (· != c) = cs := by
  rw [← List.append_nil cs, List.takeWhile_append_of_pos (forall_bne_of_not_mem h)]
  rfl

theorem dropWhile_bne_eq_nil {c : Char} {cs : List Char} (h : c ∉ cs) :
    cs.dropWhile (· != c) = [] := by
  rw [← List.append_nil cs, List.dropWhile_append_of_pos (forall_bne_of_not_mem h)]
  rfl

theorem exists_last_segment {sep : Char} {cs : List Char} (h : sep ∈ cs) :
    ∃ front last, cs = front ++ sep :: last ∧ sep ∉ last := by
  obtain ⟨last, front, hsplit, hsep⟩ := List.eq_append_cons_of_mem (List.mem_reverse.2 h)
  refine ⟨front.reverse, last.reverse, ?_, by simpa using hsep⟩
  rw [← List.reverse_reverse cs, hsplit]
  simp

theorem splitOn_intercalate_cons (sep : Char) (cs : List Char) (more : List (List Char)) :
    ([sep].intercalate (cs :: more)).splitOn sep = (cs :: more).flatMap (·.splitOn sep) := by
  induction more generalizing cs with
  | nil => simp
  | cons next more ih =>
    rw [List.flatMap_cons, ← ih next, ← List.splitOn_append_cons_self]
    simp [List.intercalate]

/-- The first segment of a text that goes on from `cs` is `cs` and a first part of what follows. -/
theorem splitOn_append {sep : Char} {cs : List Char} (h : sep ∉ cs) (more : List Char) :
    ∃ start rest, start <+: more ∧ (cs ++ more).splitOn sep = (cs ++ start) :: rest := by
  by_cases hmore : sep ∈ more
  · obtain ⟨start, after, rfl, hstart⟩ := List.eq_append_cons_of_mem hmore
    refine ⟨start, after.splitOn sep, List.prefix_append _ _, ?_⟩
    rw [← List.append_assoc, List.splitOn_append_cons_self_of_not_mem]
    simp [h, hstart]
  · exact ⟨more, [], List.prefix_refl _, List.splitOn_eq_singleton (by simp [h, hmore])⟩

theorem flatten_modifyHead_cons {α : Type} (a : α) {ls : List (List α)} (h : ls ≠ []) :
    (ls.modifyHead (a :: ·)).flatten = a :: ls.flatten := by
  obtain ⟨first, rest, rfl⟩ := List.exists_cons_of_ne_nil h
  rfl

/-- The pieces of a cut text hold all of it but the characters it was cut at. -/
theorem flatten_splitOnP (p : Char → Bool) (cs : List Char) :
    (cs.splitOnP p).flatten = cs.filter (!p ·) := by
  induction cs with
  | nil => rfl
  | cons c rest ih =>
    rw [List.splitOnP_cons_eq_if_modifyHead]
    cases hc : p c with
    | true => simp [hc, ih]
    | false => simp [hc, ih, flatten_modifyHead_cons c (List.splitOnP_ne_nil p rest)]

theorem eq_false_of_mem_splitOnP {p : Char → Bool} {cs piece : List Char}
    (h : piece ∈ cs.splitOnP p) {c : Char} (hc : c ∈ piece) : p c = false := by
  have hmem : c ∈ (cs.splitOnP p).flatten := List.mem_flatten_of_mem h hc
  rw [flatten_splitOnP] at hmem
  simpa using (List.mem_filter.1 hmem).2

theorem not_mem_of_mem_splitOn {sep : Char} {segment : List Char} (cs : List Char)
    (h : segment ∈ cs.splitOn sep) : sep ∉ segment := by
  intro hsep
  rw [List.splitOn_eq_splitOnP] at h
  simpa using eq_false_of_mem_splitOnP h hsep

theorem not_mem_of_mem_split {sep : Char} {s segment : String} (h : segment ∈ split sep s) :
    sep ∉ segment.toList := by
  obtain ⟨cs, hcs, rfl⟩ := List.mem_map.1 h
  rw [String.toList_ofList]
  exact not_mem_of_mem_splitOn s.toList hcs

theorem split_join {sep : Char} {segments : List String} (hne : segments ≠ [])
    (h : ∀ segment ∈ segments, sep ∉ segment.toList) :
    split sep (join sep segments) = segments := by
  have hfree : ∀ cs ∈ segments.map String.toList, sep ∉ cs := by simpa using h
  rw [split, toList_join, List.splitOn_intercalate sep hfree (by simpa using hne)]
  simp [Function.comp_def]

/-- The segments that a text was joined from are those it has, if none of them is empty. -/
theorem filter_split_join {sep : Char} {segments : List String}
    (h : ∀ segment ∈ segments, segment ≠ "" ∧ sep ∉ segment.toList) :
    (split sep (join sep segments)).filter (fun segment => segment ≠ "") = segments := by
  by_cases hne : segments = []
  · simp [hne, split, join]
  · rw [split_join hne fun segment hmem => (h segment hmem).2, List.filter_eq_self]
    exact fun segment hmem => decide_eq_true (h segment hmem).1

end YangBind.Text
