import YangBind.Proofs.Json.Reordering

/-! Reading records. A record is read field by field, and each field is found by its name wherever
it stands among the others; a field that has been left out is not found, and then has its default if
it may be left out at all. -/

namespace YangBind

open JsonCodec (encode decode)

/-- The value without its fields of the names `omitted`, if it is an object. -/
def Json.without (omitted : String → Bool) : Json → Json
  | .object fields => .object (fields.filter fun e => !omitted e.1)
  | j => j

/-- The value with `f` applied to its fields of this name, if it is an object. -/
def Json.inField (name : String) (f : Json → Json) : Json → Json
  | .object fields => .object (fields.map fun e => if e.1 = name then (e.1, f e.2) else e)
  | j => j

theorem Json.without_nothing (j : Json) : j.without (fun _ => false) = j := by
  cases j <;> simp [without]

theorem Json.inField_eq_self {f : Json → Json} (hf : ∀ v, f v = v) (name : String) (j : Json) :
    j.inField name f = j := by
  cases j <;> simp [inField, hf]

namespace JsonRecord

/-- Whether `r` goes by name and has the fields `l` without those of the names `omitted`, in any
order. -/
def Holds (r : JsonRecord) (omitted : String → Bool) (l : List (String × Json)) : Prop :=
  ∃ fields, r = .named fields ∧ ∀ name v, (name, v) ∈ l →
    if omitted name then fields.lookup name = none
    else ∃ w, fields.lookup name = some w ∧ v.Reorders w

variable {α β : Type} [JsonCodec α] {r : JsonRecord} {omitted : String → Bool}
  {l : List (String × Json)} {j v : Json} {i : Nat} {name : String} {b : β}

theorem bind_ofJson?_without (h : ((Json.object l).without omitted).Reorders j)
    (hl : (l.map Prod.fst).Nodup) {size : Nat} {k : JsonRecord → Option β}
    (hk : ∀ r : JsonRecord, r.Holds omitted l → k r = some b) :
    (ofJson? size j >>= k) = some b := by
  have hkept : ((l.filter fun e => !omitted e.1).map Prod.fst).Nodup :=
    hl.sublist (List.filter_sublist.map Prod.fst)
  obtain ⟨fields, rfl, hnames, hvalues⟩ := h.exists_fields hkept
  refine hk (.named fields) ⟨fields, rfl, fun name v hv => ?_⟩
  split
  case isTrue homitted =>
    -- a name that is left out stands nowhere in the object
    rw [List.lookup_eq_none_iff]
    intro e he
    obtain ⟨d, hd, hname⟩ := List.mem_map.1 (hnames.mem_iff.2 (List.mem_map_of_mem he))
    have hd : omitted e.1 = false := by simpa [hname] using (List.mem_filter.1 hd).2
    rw [bne_iff_ne]
    rintro rfl
    simp [hd] at homitted
  case isFalse hkeep =>
    have hmem : (name, v) ∈ l.filter fun e => !omitted e.1 :=
      List.mem_filter.2 ⟨hv, by simpa using hkeep⟩
    obtain ⟨e, he, rfl⟩ := List.mem_map.1 (hnames.mem_iff.1 (List.mem_map.2 ⟨_, hmem, rfl⟩))
    have hlookup := (NameMap.lookup_eq_some_iff_mem (hnames.nodup_iff.1 hkept)).2 he
    exact ⟨e.2, hlookup, hvalues e.1 v e.2 hmem he⟩

theorem bind_ofJson? (h : (Json.object l).Reorders j) (hl : (l.map Prod.fst).Nodup) {size : Nat}
    {k : JsonRecord → Option β}
    (hk : ∀ r : JsonRecord, r.Holds (fun _ => false) l → k r = some b) :
    (ofJson? size j >>= k) = some b := by
  rw [← Json.without_nothing (.object l)] at h
  exact bind_ofJson?_without h hl hk

theorem Holds.exists_value (h : r.Holds (fun _ => false) l) (hi : l[i]? = some (name, v)) :
    ∃ fields w, r = .named fields ∧ fields.lookup name = some w ∧ v.Reorders w := by
  obtain ⟨fields, rfl, hfields⟩ := h
  obtain ⟨w, hw, hv⟩ := hfields name v (List.mem_of_getElem? hi)
  exact ⟨fields, w, rfl, hw, hv⟩

theorem Holds.bind_required [LawfulJsonCodec α] {a : α} (h : r.Holds (fun _ => false) l)
    (hi : l[i]? = some (name, encode a)) {k : α → Option β} (hk : k a = some b) :
    (r.required i name >>= k) = some b := by
  obtain ⟨fields, w, rfl, hw, hv⟩ := h.exists_value hi
  have hread : (named fields).required i name = some a := by
    rw [required, value?, hw]
    exact decode_of_reorders hv
  rw [hread]
  exact hk

theorem Holds.bind_optional [LawfulJsonCodec α] {a : Option α} (h : r.Holds (fun _ => false) l)
    (hi : l[i]? = some (name, encode a)) {k : Option α → Option β} (hk : k a = some b) :
    (r.optional i name >>= k) = some b := by
  obtain ⟨fields, w, rfl, hw, hv⟩ := h.exists_value hi
  have hread : (named fields).optional i name = some a := by
    simp only [optional, value?, hw]
    exact JsonCodec.decode_option_of_reorders hv
  rw [hread]
  exact hk

/-- A field with a default, which may have been left out. -/
theorem Holds.bind_orDefault {a default : α} (h : r.Holds omitted l)
    (hi : l[i]? = some (name, v)) (hread : ∀ {w}, v.Reorders w → decode w = some a)
    {k : α → Option β} (hk : k (if omitted name then default else a) = some b) :
    (r.orDefault i name default >>= k) = some b := by
  obtain ⟨fields, rfl, hfields⟩ := h
  have hvalue := hfields name v (List.mem_of_getElem? hi)
  have hfield : (named fields).orDefault i name default =
      some (if omitted name then default else a) := by
    split at hvalue
    case isTrue homitted => simp [orDefault, value?, hvalue, homitted]
    case isFalse hkept =>
      obtain ⟨w, hw, hv⟩ := hvalue
      simp [orDefault, value?, hw, hkept, hread hv]
  rw [hfield]
  exact hk

end JsonRecord

end YangBind
