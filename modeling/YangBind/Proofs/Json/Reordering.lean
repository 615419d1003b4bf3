import Mathlib.Data.List.Forall2
import YangBind.Json.Value
import YangBind.Proofs.NameMap

/-! JSON values up to the order of fields. A map without an order of its own may be written in any
order, so what is written for a value is fixed only up to the order of the fields of objects. A
lawful codec reads the value back from each of these orders; it never writes null, which is kept for
values that are absent. -/

namespace YangBind

open JsonCodec (encode decode)

namespace Json

/-- Whether two values differ in the order of the fields of objects at most. Where an object repeats
a name, its first field of the name is the one that counts. -/
inductive Reorders : Json → Json → Prop
  | null : Reorders .null .null
  | bool (b : Bool) : Reorders (.bool b) (.bool b)
  | int (n : Int) : Reorders (.int n) (.int n)
  | decimal (digits : Int) (places : Nat) :
      Reorders (.decimal digits places) (.decimal digits places)
  | text (s : String) : Reorders (.text s) (.text s)
  | array {l r : List Json} : List.Forall₂ Reorders l r → Reorders (.array l) (.array r)
  | object {l r : List (String × Json)} : (l.map Prod.fst).Perm (r.map Prod.fst) →
      (∀ name v w, l.lookup name = some v → r.lookup name = some w → Reorders v w) →
      Reorders (.object l) (.object r)

namespace Reorders

theorem refl (j : Json) : j.Reorders j := by
  match j with
  | .null => exact .null
  | .bool b => exact .bool b
  | .int n => exact .int n
  | .decimal digits places => exact .decimal digits places
  | .text s => exact .text s
  | .array l => exact .array (List.forall₂_same.2 fun v hv => refl v)
  | .object l =>
    refine .object (.refl _) fun name v w hv hw => ?_
    obtain rfl := Option.some.inj (hv.symm.trans hw)
    obtain ⟨front, back, hl, -⟩ := List.lookup_eq_some_iff.1 hv
    exact refl v
termination_by sizeOf j
decreasing_by
  · have hlt := List.sizeOf_lt_of_mem hv
    simp only [array.sizeOf_spec]
    omega
  · have hlt := List.sizeOf_lt_of_mem (hl ▸ List.mem_append_right front List.mem_cons_self)
    simp only [object.sizeOf_spec, Prod.mk.sizeOf_spec] at hlt ⊢
    omega

variable {l : List (String × Json)} {j v : Json} {name : String}

/-- The fields of an object in another order. -/
theorem of_perm {r : List (String × Json)} (h : l.Perm r) (hl : (l.map Prod.fst).Nodup) :
    (Json.object l).Reorders (.object r) := by
  have hr := (h.map Prod.fst).nodup_iff.1 hl
  refine .object (h.map Prod.fst) fun name v w hv hw => ?_
  rw [NameMap.lookup_eq_some_iff_mem hr, ← h.mem_iff, ← NameMap.lookup_eq_some_iff_mem hl] at hw
  exact Option.some.inj (hv.symm.trans hw) ▸ refl v

/-- The value of one field in another order. -/
theorem of_field {w : Json} (h : v.Reorders w) (name : String) (front back : List (String × Json)) :
    (Json.object (front ++ (name, v) :: back)).Reorders
      (.object (front ++ (name, w) :: back)) := by
  refine .object (by simp) fun other x y hx hy => ?_
  rw [List.lookup_append, NameMap.lookup_cons] at hx hy
  cases hfront : front.lookup other with
  | some z =>
    rw [hfront, Option.some_or] at hx hy
    exact Option.some.inj (hx.symm.trans hy) ▸ refl x
  | none =>
    rw [hfront, Option.none_or] at hx hy
    split at hx
    case isTrue hname =>
      rw [if_pos hname] at hy
      exact Option.some.inj hx ▸ Option.some.inj hy ▸ h
    case isFalse hname =>
      rw [if_neg hname] at hy
      exact Option.some.inj (hx.symm.trans hy) ▸ refl x

theorem eq_null (h : v.Reorders .null) : v = .null := by
  cases h
  rfl

theorem exists_values {l : List Json} (h : (Json.array l).Reorders j) :
    ∃ r, j = .array r ∧ List.Forall₂ Reorders l r := by
  cases h with
  | array h => exact ⟨_, rfl, h⟩

theorem exists_fields (h : (Json.object l).Reorders j) (hl : (l.map Prod.fst).Nodup) :
    ∃ r, j = .object r ∧ (l.map Prod.fst).Perm (r.map Prod.fst) ∧
      ∀ name v w, (name, v) ∈ l → (name, w) ∈ r → v.Reorders w := by
  cases h with
  | @object l r hnames hvalues =>
    have hr := hnames.nodup_iff.1 hl
    refine ⟨r, rfl, hnames, fun name v w hv hw => hvalues name v w ?_ ?_⟩
    · exact (NameMap.lookup_eq_some_iff_mem hl).2 hv
    · exact (NameMap.lookup_eq_some_iff_mem hr).2 hw

/-- An object with one field has no other order. -/
theorem exists_field (h : (Json.object [(name, v)]).Reorders j) :
    ∃ w, j = .object [(name, w)] ∧ v.Reorders w := by
  obtain ⟨r, rfl, hnames, hfields⟩ := h.exists_fields (by simp)
  obtain ⟨e, rfl, rfl⟩ := List.map_eq_singleton_iff.1 (List.singleton_perm.1 hnames).symm
  exact ⟨e.2, rfl, hfields e.1 v e.2 List.mem_cons_self List.mem_cons_self⟩

end Reorders

end Json

/-- Codecs that read back what they write, in whatever order the fields of objects come. -/
class LawfulJsonCodec (α : Type) [JsonCodec α] : Prop where
  encode_ne_null (a : α) : encode a ≠ .null
  decode_of_reorders {a : α} {j : Json} : (encode a).Reorders j → decode j = some a

export LawfulJsonCodec (decode_of_reorders)

namespace JsonCodec

/-- Whether every value is read back from what is written for it, the fields of objects in their
order of declaration or in any other. -/
def RoundTrips (α : Type) [JsonCodec α] : Prop :=
  ∀ a : α, decode (encode a) = some a ∧ ∀ j, (encode a).Reorders j → decode j = some a

theorem roundTrips (α : Type) [JsonCodec α] [LawfulJsonCodec α] : RoundTrips α :=
  fun a => ⟨decode_of_reorders (.refl (encode a)), fun _ => decode_of_reorders⟩

variable {α : Type} [JsonCodec α]

instance : LawfulJsonCodec Bool where
  encode_ne_null _ := nofun
  decode_of_reorders h := by
    cases h
    rfl

instance : LawfulJsonCodec String where
  encode_ne_null _ := nofun
  decode_of_reorders h := by
    cases h
    rfl

instance : LawfulJsonCodec UInt32 where
  encode_ne_null _ := nofun
  decode_of_reorders {n j} h := by
    cases h
    change (if n.toNat < UInt32.size then some (UInt32.ofNat n.toNat) else none) = some n
    rw [if_pos n.toNat_lt, UInt32.ofNat_toNat]

theorem decode_option_of_ne_null {j : Json} (h : j ≠ .null) :
    decode j = (decode j : Option α).map some := by
  cases j with
  | null => exact absurd rfl h
  | _ => rfl

/-- Null stands for the absent value alone. -/
theorem decode_option_of_reorders [LawfulJsonCodec α] {a : Option α} {j : Json}
    (h : (encode a).Reorders j) : decode j = some a := by
  cases a with
  | none =>
    cases h
    rfl
  | some a =>
    have hread : decode j = some a := decode_of_reorders h
    have hne : j ≠ .null := fun hnull => LawfulJsonCodec.encode_ne_null a (hnull ▸ h).eq_null
    rw [decode_option_of_ne_null hne, hread]
    rfl

theorem mapM_decode_of_reorders [LawfulJsonCodec α] {l : List α} {r : List Json}
    (h : List.Forall₂ Json.Reorders (l.map encode) r) : r.mapM decode = some l := by
  induction l generalizing r with
  | nil =>
    cases h
    rfl
  | cons a rest ih =>
    cases h with
    | cons hfirst hrest =>
      rw [List.mapM_cons, decode_of_reorders hfirst, ih hrest]
      rfl

instance [LawfulJsonCodec α] : LawfulJsonCodec (List α) where
  encode_ne_null _ := nofun
  decode_of_reorders h := by
    obtain ⟨r, rfl, hr⟩ := h.exists_values
    exact mapM_decode_of_reorders hr

/-- The fields of an object that are those of a map, in any order and with their values read. -/
theorem exists_mapM_decode {m : NameMap α} {r : List (String × Json)}
    (h : ∀ e ∈ r, ∃ a, decode e.2 = some a ∧ (e.1, a) ∈ m.entries) :
    ∃ l, (r.mapM fun e => (decode e.2).map fun a => (e.1, a)) = some l ∧
      l.map Prod.fst = r.map Prod.fst ∧ ∀ e ∈ l, e ∈ m.entries := by
  induction r with
  | nil => exact ⟨[], rfl, rfl, by simp⟩
  | cons e rest ih =>
    obtain ⟨a, ha, hmem⟩ := h e List.mem_cons_self
    obtain ⟨l, hl, hnames, hentries⟩ := ih fun e he => h e (List.mem_cons_of_mem _ he)
    refine ⟨(e.1, a) :: l, ?_, by rw [List.map_cons, List.map_cons, hnames], ?_⟩
    · rw [List.mapM_cons, ha, hl]
      rfl
    · rintro d hd
      obtain rfl | hd := List.mem_cons.1 hd
      · exact hmem
      · exact hentries d hd

theorem names_of_entries (m : NameMap α) :
    (m.entries.map fun e => (e.1, encode e.2)).map Prod.fst = m.keys := by
  simp [NameMap.keys, Function.comp_def]

instance [LawfulJsonCodec α] : LawfulJsonCodec (NameMap α) where
  encode_ne_null _ := nofun
  decode_of_reorders {m j} h := by
    obtain ⟨r, rfl, hnames, hvalues⟩ := h.exists_fields (names_of_entries m ▸ m.nodup_keys)
    rw [names_of_entries] at hnames
    have hread : ∀ e ∈ r, ∃ a, decode e.2 = some a ∧ (e.1, a) ∈ m.entries := by
      intro e he
      obtain ⟨a, ha⟩ := NameMap.mem_keys_iff.1 (hnames.mem_iff.2 (List.mem_map_of_mem he))
      have hentry := NameMap.find?_eq_some_iff.1 ha
      have hwritten : (e.1, encode a) ∈ m.entries.map fun e => (e.1, encode e.2) :=
        List.mem_map.2 ⟨_, hentry, rfl⟩
      exact ⟨a, decode_of_reorders (hvalues e.1 _ e.2 hwritten he), hentry⟩
    obtain ⟨l, hl, hlnames, hentries⟩ := exists_mapM_decode hread
    refine (congrArg (Option.map NameMap.ofList) hl).trans ?_
    rw [Option.map_some, NameMap.ofList_eq_of_mem (fun k hk => ?_) hentries]
    exact hlnames ▸ hnames.mem_iff.1 hk

/-- Values without data are read back if their tags tell them apart. -/
theorem lawful_ofTags {α : Type} {values : List α} {tag : α → String}
    (h : ∀ a, values.find? (tag · == tag a) = some a) :
    @LawfulJsonCodec α (.ofTags values tag) :=
  @LawfulJsonCodec.mk α (.ofTags values tag) (fun _ => nofun) fun {a j} hj => by
    cases hj
    exact h a

end JsonCodec

end YangBind
