import Mathlib.Data.List.Pairwise
import YangBind.Proofs.Ir.KeyName

/-! Display names do not collide, whatever the mapper calls the fields, since each is free of those
of smaller keys. Names that do not collide are given as they are, so a compiled directory keeps its
names when it is named again. -/

namespace YangBind

namespace DisplayName

theorem assignFrom_eq_self {seen taken : List String} {l : List (String × String)}
    (hfree : ∀ e ∈ l, fold e.2 ∉ seen ∧ fold e.2 ∉ taken)
    (hl : l.Pairwise fun a b => fold a.2 ≠ fold b.2) : assignFrom seen taken l = l := by
  induction l generalizing seen taken with
  | nil => rfl
  | cons d rest ih =>
    obtain ⟨key, name⟩ := d
    obtain ⟨hd, hrest⟩ := List.pairwise_cons.1 hl
    obtain ⟨hseen, htaken⟩ := hfree _ List.mem_cons_self
    have hname : firstFree taken (name ++ underscores (seen.count (fold name))) = name := by
      rw [List.count_eq_zero_of_not_mem hseen, append_underscores_zero]
      exact firstFree_of_not_mem htaken
    simp only [assignFrom, hname]
    rw [ih _ hrest]
    intro e he
    obtain ⟨hseen', htaken'⟩ := hfree e (List.mem_cons_of_mem _ he)
    have hne := (hd e he).symm
    exact ⟨by simp [hne, hseen'], by simp [hne, htaken']⟩

/-- No two keys have names that collide. -/
def CollisionFree (names : NameMap String) : Prop :=
  ∀ j k a b, names.find? j = some a → names.find? k = some b → fold a = fold b → j = k

theorem collisionFree_iff_pairwise {names : NameMap String} :
    CollisionFree names ↔ names.entries.Pairwise fun a b => fold a.2 ≠ fold b.2 := by
  constructor
  · intro h
    refine names.ascending.imp_of_mem fun {a b} ha hb hlt heq => ?_
    have hkey := h a.1 b.1 a.2 b.2 (NameMap.find?_eq_some_iff.2 ha)
      (NameMap.find?_eq_some_iff.2 hb) heq
    exact String.lt_irrefl b.1 (hkey ▸ hlt)
  · intro h j k a b ha hb heq
    have : Std.Symm fun a b : String × String => fold a.2 ≠ fold b.2 := ⟨fun _ _ => Ne.symm⟩
    by_contra hne
    exact h.forall (NameMap.find?_eq_some_iff.1 ha) (NameMap.find?_eq_some_iff.1 hb)
      (fun hab => hne (congrArg Prod.fst hab)) heq

theorem collisionFree_assign (intended : NameMap String) : CollisionFree (assign intended) := by
  intro j k a b ha hb heq
  by_contra hne
  -- the larger key has a name that is free of the other one's
  by_cases hlt : j < k
  · obtain ⟨-, -, -, -, hfree⟩ := exists_of_assign_find? hb
    exact hfree ⟨j, a, hlt, ha, heq⟩
  · obtain ⟨-, -, -, -, hfree⟩ := exists_of_assign_find? ha
    exact hfree ⟨k, b, NameMap.lt_of_not_lt_of_ne hlt hne, hb, heq.symm⟩

theorem assign_of_collisionFree {names : NameMap String} (h : CollisionFree names) :
    assign names = names := by
  obtain ⟨l, hl⟩ := names
  have hself : assignFrom [] [] l = l :=
    assignFrom_eq_self (by simp) (collisionFree_iff_pairwise.1 h)
  simp only [assign, hself]

end DisplayName

namespace CompiledDirectory

theorem map_name_rename (d : CompiledDirectory) :
    (d.rename.fields.map fun _ field => field.name) = d.displayNames := by
  apply NameMap.ext
  intro key
  rw [displayNames_find?, NameMap.find?_map]

theorem displayNames_rename (d : CompiledDirectory) : d.rename.displayNames = d.displayNames := by
  rw [displayNames, map_name_rename]
  exact DisplayName.assign_of_collisionFree (DisplayName.collisionFree_assign _)

end CompiledDirectory

namespace Mapper

variable {s : Schema} {m : Mapper} {opts : IrOptions}

/-- Leaves whose names in camel case differ by case or by an underscore alone. -/
def clashingLeaves : Schema := (Draft.empty.run [
  .module "m",
  .add ⟨0⟩ (.container "c"),
  .add ⟨1⟩ (.leaf "x_" "string"),
  .add ⟨1⟩ (.leaf "x" "string"),
  .add ⟨1⟩ (.leaf "X" "string")]).2.schema

def compileClashing : Except BindError (NameMap CompiledDirectory) :=
  (CamelCase.ofEnums []).mapper.compile clashingLeaves (.ofList [("/m/c", {
    name := "M_C"
    entry := ⟨1⟩
    path := ⟨["", "m", "c"]⟩
    fields := .ofList [("x_", ⟨2⟩), ("x", ⟨3⟩), ("X", ⟨4⟩)] })]) {}

/-- The names in a compiled directory: no two of them collide, each is what the mapper calls the
field's node with underscores at the end, and naming the fields again changes none of them. -/
theorem names_of_compile {directories : NameMap Directory} {out : NameMap CompiledDirectory}
    (h : m.compile s directories opts = .ok out) {path : String} {parsed : CompiledDirectory}
    (hp : out.find? path = some parsed) :
    DisplayName.CollisionFree (parsed.fields.map fun _ field => field.name) ∧
      (∃ d, directories.find? path = some d ∧
        ∀ key field, parsed.fields.find? key = some field →
          ∃ (n : Node s) (called : String) (k : Nat), d.fields.find? key = some n.id ∧
            m.fieldName n = .ok called ∧ field.name = called ++ DisplayName.underscores k) ∧
      parsed.displayNames = parsed.fields.map fun _ field => field.name := by
  obtain ⟨d, hd, hparsed⟩ := exists_of_compile_find? h hp
  obtain ⟨node, bare, -, hfields, -, rfl⟩ := compileDirectory_ok hparsed
  refine ⟨?_, ⟨d, hd, fun key field hfield => ?_⟩, ?_⟩
  · rw [CompiledDirectory.map_name_rename]
    exact DisplayName.collisionFree_assign _
  · rw [CompiledDirectory.find?_fields_rename, Option.map_eq_some_iff] at hfield
    obtain ⟨compiled, hcompiled, hnamed⟩ := hfield
    obtain ⟨n, hn, -, hfield⟩ := exists_of_compileFields_find? hfields hcompiled
    obtain ⟨k, hrenamed, -⟩ := CompiledDirectory.rename_find? hcompiled
    rw [CompiledDirectory.find?_fields_rename, hcompiled, Option.map_some, hnamed,
      Option.some.injEq] at hrenamed
    exact ⟨n, compiled.name, k, hn, compileField_ok hfield, by rw [hrenamed]⟩
  · rw [CompiledDirectory.displayNames_rename, CompiledDirectory.map_name_rename]

/-- The name of `x` with its underscore is the name of `x_`, which gets one more. -/
theorem names_of_compile_clashing :
    ∃ out parsed, compileClashing = .ok out ∧ out.find? "/m/c" = some parsed ∧
      (parsed.fields.entries.map fun e => (e.1, e.2.name)) =
        [("X", "X"), ("x", "X_"), ("x_", "X__")] ∧
      DisplayName.CollisionFree (parsed.fields.map fun _ field => field.name) ∧
      parsed.displayNames = parsed.fields.map fun _ field => field.name := by
  have hnames : (compileClashing.toOption.bind (·.find? "/m/c")).map
      (fun parsed => parsed.fields.entries.map fun e => (e.1, e.2.name)) =
        some [("X", "X"), ("x", "X_"), ("x_", "X__")] := by
    decide +kernel
  obtain ⟨parsed, hparsed, hentries⟩ := Option.map_eq_some_iff.1 hnames
  obtain ⟨out, hout, hfind⟩ := Option.bind_eq_some_iff.1 hparsed
  have hok : compileClashing = .ok out := by
    cases hc : compileClashing with
    | error e => simp [hc, Except.toOption] at hout
    | ok out' => simpa [hc, Except.toOption] using hout
  obtain ⟨hfree, -, hagain⟩ := names_of_compile hok hfind
  exact ⟨out, parsed, hok, hfind, hentries, hfree, hagain⟩

end Mapper

end YangBind
