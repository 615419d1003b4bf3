import YangBind.Error

/-! Computations that put questions to a mapper. They may fail, and they keep the questions they
asked, in order, whether they fail or not. -/

namespace YangBind

universe u v

inductive MapperMethod
  | fieldName | directoryName | packageName | keyLeafType | leafType | fieldFlags
  deriving DecidableEq

structure MapperCall where
  method : MapperMethod
  entry : EntryId
  deriving DecidableEq

structure Traced (α : Type u) where
  outcome : Except BindError α
  calls : List MapperCall

namespace Traced

variable {α : Type u} {β : Type v}

/-- The computation that asks nothing. -/
def ofExcept (outcome : Except BindError α) : Traced α := ⟨outcome, []⟩

/-- A failure ends the sequence: what comes after it asks nothing. -/
def bind (x : Traced α) (f : α → Traced β) : Traced β :=
  match x.outcome with
  | .error e => ⟨.error e, x.calls⟩
  | .ok a => ⟨(f a).outcome, x.calls ++ (f a).calls⟩

instance : Monad Traced where
  pure a := ofExcept (.ok a)
  bind := Traced.bind

instance : MonadLift (Except BindError) Traced := ⟨ofExcept⟩

/-- The joined results of `f` on the elements of a list, from first to last. -/
def collect (f : α → Traced (List β)) : List α → Traced (List β)
  | [] => ofExcept (.ok [])
  | a :: rest =>
    (f a).bind fun bs => (collect f rest).bind fun more => ofExcept (.ok (bs ++ more))

@[simp] theorem outcome_ofExcept (x : Except BindError α) : (ofExcept x).outcome = x := rfl

@[simp] theorem calls_ofExcept (x : Except BindError α) : (ofExcept x).calls = [] := rfl

theorem outcome_bind (x : Traced α) (f : α → Traced β) :
    (x.bind f).outcome = x.outcome.bind fun a => (f a).outcome := by
  unfold Traced.bind
  split <;> simp [*, Except.bind]

theorem outcome_bind_eq_ok_iff {α β : Type u} {x : Traced α} {f : α → Traced β} {b : β} :
    (x >>= f).outcome = .ok b ↔ ∃ a, x.outcome = .ok a ∧ (f a).outcome = .ok b := by
  change (x.bind f).outcome = .ok b ↔ _
  rw [outcome_bind]
  cases x.outcome <;> simp [Except.bind]

theorem outcome_collect {f : α → Traced (List β)} {l : List α} {bs : List β}
    (h : (collect f l).outcome = .ok bs) :
    (∀ a ∈ l, ∃ cs, (f a).outcome = .ok cs) ∧
      ∀ b, b ∈ bs ↔ ∃ a ∈ l, ∃ cs, (f a).outcome = .ok cs ∧ b ∈ cs := by
  induction l generalizing bs with
  | nil =>
    cases h
    simp
  | cons a rest ih =>
    obtain ⟨cs, hcs, h⟩ := outcome_bind_eq_ok_iff.1 h
    obtain ⟨more, hmore, h⟩ := outcome_bind_eq_ok_iff.1 h
    cases h
    obtain ⟨hok, hmem⟩ := ih hmore
    simpa [hcs, hmem] using hok

end Traced

end YangBind
