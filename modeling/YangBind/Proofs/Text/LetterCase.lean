import YangBind.Text.LetterCase

/-! Underscores and lower case. Underscores have no case and end no word, so at the end of a text
they stay as they are and change nothing before them; and no other character has an underscore in
its lower case. -/

namespace YangBind.Text

theorem meetsCased_append_underscores (cs : List Char) (n : Nat) :
    meetsCased (cs ++ List.replicate n '_') = meetsCased cs := by
  have hignorable : caseIgnorable.contains '_' = false := by decide +kernel
  have hcased : cased.contains '_' = false := by decide +kernel
  have hplain : (List.dropWhile caseIgnorable.contains (List.replicate n '_')).head?.any
      cased.contains = false := by
    cases n with
    | zero => rfl
    | succ n => simp [List.replicate_succ, hignorable, hcased]
  unfold meetsCased
  rw [List.dropWhile_append]
  cases hrest : List.dropWhile caseIgnorable.contains cs with
  | nil => simpa using hplain
  | cons c rest => rfl

theorem lowerChars_replicate_underscore (before : List Char) (n : Nat) :
    lowerChars before (List.replicate n '_') = List.replicate n '_' := by
  induction n generalizing before with
  | zero => rfl
  | succ n ih =>
    rw [List.replicate_succ, lowerChars, ih]
    · rfl
    · decide

/-- Underscores at the end of a word leave the lower case of the word as it is, that of a final
sigma too. -/
theorem lowerChars_append_underscores (before cs : List Char) (n : Nat) :
    lowerChars before (cs ++ List.replicate n '_') =
      lowerChars before cs ++ List.replicate n '_' := by
  fun_induction lowerChars before cs with
  | case1 before => exact lowerChars_replicate_underscore before n
  | case2 before after sigma ih =>
    rw [List.cons_append, lowerChars, ih, meetsCased_append_underscores]
    rfl
  | case3 before c after hc ih =>
    rw [List.cons_append, lowerChars, ih, List.append_assoc]
    exact hc

namespace CaseMapping

/-- Where the counterpart of a character comes from. -/
theorem apply_cases (m : CaseMapping) (c : Char) :
    (∃ e ∈ m.expansions, m.apply c = e.2.map Char.ofNat) ∨
      (∃ r ∈ m.runs, r.first ≤ c.toNat ∧ m.apply c = [Char.ofNat (r.move c.toNat)]) ∨
      m.apply c = [c] := by
  unfold apply
  split
  case h_1 codes hcodes =>
    obtain ⟨front, back, hsplit, -⟩ := List.lookup_eq_some_iff.1 hcodes
    exact .inl ⟨(c.toNat, codes), by simp [hsplit], rfl⟩
  case h_2 =>
    split
    case h_1 r hr =>
      have hcovers := List.find?_some hr
      simp only [CaseRun.covers, Bool.and_eq_true, decide_eq_true_eq] at hcovers
      exact .inr (.inl ⟨r, List.mem_of_find?_eq_some hr, hcovers.1.1, rfl⟩)
    case h_2 => exact .inr (.inr rfl)

theorem apply_ne_nil {m : CaseMapping} (h : ∀ e ∈ m.expansions, e.2 ≠ []) (c : Char) :
    m.apply c ≠ [] := by
  obtain ⟨e, he, happly⟩ | ⟨r, -, -, happly⟩ | happly := m.apply_cases c
  · rw [happly]
    exact fun hnil => h e he (List.map_eq_nil_iff.1 hnil)
  · rw [happly]
    exact List.cons_ne_nil _ _
  · rw [happly]
    exact List.cons_ne_nil _ _

/-- Whether `x` is in no expansion and comes before all that the runs lead to. -/
def Spares (m : CaseMapping) (x : Char) : Prop :=
  (∀ e ∈ m.expansions, x ∉ e.2.map Char.ofNat) ∧ ∀ r ∈ m.runs, (x.toNat : Int) < r.first + r.shift

instance (m : CaseMapping) (x : Char) : Decidable (m.Spares x) :=
  inferInstanceAs (Decidable (_ ∧ _))

end CaseMapping

theorem ofNat_ne_of_lt {x : Char} (hx : x ≠ '\x00') {n : Nat} (h : x.toNat < n) :
    Char.ofNat n ≠ x := by
  rintro rfl
  by_cases hvalid : n.isValidChar
  · have hchar : Char.ofNat n = Char.ofNatAux n hvalid := dif_pos hvalid
    rw [hchar] at h
    exact Nat.lt_irrefl n h
  · exact hx (dif_neg hvalid)

/-- No other character has a spared one in its counterpart. -/
theorem CaseMapping.Spares.eq_of_mem_apply {m : CaseMapping} {x c : Char} (hm : m.Spares x)
    (hx : x ≠ '\x00') (h : x ∈ m.apply c) : c = x := by
  obtain ⟨e, he, happly⟩ | ⟨r, hr, hfirst, happly⟩ | happly := m.apply_cases c
  · rw [happly] at h
    exact absurd h (hm.1 e he)
  · rw [happly, List.mem_singleton] at h
    have hmove : x.toNat < r.move c.toNat := by
      have hrun := hm.2 r hr
      unfold CaseRun.move
      omega
    exact absurd h.symm (ofNat_ne_of_lt hx hmove)
  · rw [happly, List.mem_singleton] at h
    exact h.symm

theorem lowerChar_ne_nil (c : Char) : lowerChar c ≠ [] := by
  unfold lowerChar
  split
  case isTrue => exact List.cons_ne_nil _ _
  case isFalse => exact lowerMapping.apply_ne_nil (by decide +kernel) c

/-- What the 128 characters of ASCII are checked for. -/
theorem forall_ascii {P : Char → Prop} (h : ∀ n < 0x80, P (Char.ofNat n)) {c : Char}
    (hc : c.toNat < 0x80) : P c := by
  rw [← Char.ofNat_toNat c]
  exact h c.toNat hc

theorem toLower_eq_underscore {c : Char} (hc : c.toNat < 0x80) (h : c.toLower = '_') : c = '_' :=
  forall_ascii (P := fun c => c.toLower = '_' → c = '_') (by decide +kernel) hc h

theorem eq_underscore_of_mem_lowerChar {c : Char} (h : '_' ∈ lowerChar c) : c = '_' := by
  have hspares : lowerMapping.Spares '_' := by decide +kernel
  unfold lowerChar at h
  split at h
  case isTrue hc => exact toLower_eq_underscore hc (List.mem_singleton.1 h).symm
  case isFalse => exact hspares.eq_of_mem_apply (by decide) h

theorem eq_nil_of_lowerChars_eq_nil {before cs : List Char} (h : lowerChars before cs = []) :
    cs = [] := by
  fun_cases lowerChars before cs with
  | case1 => rfl
  | case2 => simp [lowerChars] at h
  | case3 c after hc =>
    rw [lowerChars, List.append_eq_nil_iff] at h
    · exact absurd h.1 (lowerChar_ne_nil c)
    · exact hc

/-- A text whose lower case ends with an underscore ends with one itself. -/
theorem getLast?_of_lowerChars {before cs : List Char}
    (h : (lowerChars before cs).getLast? = some '_') : cs.getLast? = some '_' := by
  fun_induction lowerChars before cs with
  | case1 => cases h
  | case2 before after sigma ih =>
    have hsigma : sigma ≠ '_' := by
      unfold sigma
      split <;> decide
    rw [List.getLast?_cons] at h ⊢
    cases hlast : (lowerChars ('Σ' :: before) after).getLast? with
    | none =>
      rw [hlast] at h
      exact absurd (Option.some.inj h) hsigma
    | some x =>
      rw [hlast] at h
      obtain rfl := Option.some.inj h
      rw [ih hlast, Option.getD_some]
  | case3 before c after hc ih =>
    rw [List.getLast?_append] at h
    cases hlast : (lowerChars (c :: before) after).getLast? with
    | none =>
      rw [hlast, Option.none_or] at h
      obtain rfl := eq_nil_of_lowerChars_eq_nil (List.getLast?_eq_none_iff.1 hlast)
      rw [eq_underscore_of_mem_lowerChar (List.mem_of_getLast? h)]
      rfl
    | some x =>
      rw [hlast, Option.some_or] at h
      obtain rfl := Option.some.inj h
      rw [List.getLast?_cons, ih hlast, Option.getD_some]

end YangBind.Text
