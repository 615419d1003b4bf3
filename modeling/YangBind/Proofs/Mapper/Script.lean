import YangBind.Mapper.Basic

/-! Scripts: lists of checks and of questions to a mapper, performed in order up to the first action
that fails. A computation performs a script if it asks what the script asks, in the same order, and
fails just where and how the script does; its results are left out of account. -/

namespace YangBind

variable {s : Schema} {α β : Type}

/-- Whether a computation succeeds, without its result. -/
def verdict {ε : Type} (x : Except ε α) : Except ε Unit := x.map fun _ => ()

theorem verdict_eq_ok_iff {ε : Type} {x : Except ε α} :
    verdict x = .ok () ↔ ∃ a, x = .ok a := by
  cases x <;> simp [verdict, Except.map]

theorem verdict_eq_error_iff {ε : Type} {x : Except ε α} {e : ε} :
    verdict x = .error e ↔ x = .error e := by
  cases x <;> simp [verdict, Except.map]

structure Question (s : Schema) where
  method : MapperMethod
  node : Node s
  deriving DecidableEq

def Question.call (q : Question s) : MapperCall := ⟨q.method, q.node.id⟩

inductive Action (s : Schema)
  | check (outcome : Except BindError Unit)
  | ask (q : Question s)

namespace Mapper

/-- Whether the mapper answers a question of a compilation with these options. -/
def reply (m : Mapper) (opts : IrOptions) (q : Question s) : Except MapperError Unit :=
  let compress := opts.transformOptions.compressBehaviour
  match q.method with
  | .fieldName => verdict (m.fieldName q.node)
  | .directoryName => verdict (m.directoryName q.node compress)
  | .packageName => verdict (m.packageName q.node compress opts.nestedDirectories)
  | .keyLeafType => verdict (m.keyLeafType q.node opts)
  | .leafType => verdict (m.leafType q.node opts)
  | .fieldFlags => .ok ()

/-- The mapper that keeps the names of the schema and knows no types. -/
def plain : Mapper where
  fieldName n := .ok n.name
  directoryName n _ := .ok n.name
  keyLeafType _ _ := .ok none
  leafType _ _ := .ok none
  packageName n _ _ := .ok n.rootModule

theorem reply_plain (opts : IrOptions) (q : Question s) : plain.reply opts q = .ok () := by
  obtain ⟨method, n⟩ := q
  cases method <;> rfl

/-- Whether the mapper answers every question about a schema, whatever the options are. -/
def NeverFails (m : Mapper) (s : Schema) : Prop :=
  ∀ (opts : IrOptions) (q : Question s), m.reply opts q = .ok ()

theorem neverFails_plain (s : Schema) : plain.NeverFails s := reply_plain

end Mapper

namespace Action

def perform (reply : Question s → Except MapperError Unit) : Action s → Traced Unit
  | .check outcome => .ofExcept outcome
  | .ask q => Mapper.ask q.method q.node (reply q)

theorem perform_ask_ok {reply : Question s → Except MapperError Unit} {q : Question s}
    (h : reply q = .ok ()) : (ask q).perform reply = ⟨.ok (), [q.call]⟩ := by
  rw [perform, h]
  rfl

theorem perform_ask_error {reply : Question s → Except MapperError Unit} {q : Question s}
    {cause : MapperError} (h : reply q = .error cause) :
    (ask q).perform reply = ⟨.error (.mapper cause), [q.call]⟩ := by
  rw [perform, h]
  rfl

def question? : Action s → Option (Question s)
  | .check _ => none
  | .ask q => some q

@[simp] theorem question?_check (outcome : Except BindError Unit) :
    (check outcome : Action s).question? = none := rfl

@[simp] theorem question?_ask (q : Question s) : (ask q).question? = some q := rfl

@[simp] theorem question?_comp_ask : question? ∘ (ask : Question s → Action s) = some := rfl

end Action

/-- Whether every check of a script succeeds. -/
def Checked (script : List (Action s)) : Prop :=
  ∀ outcome, .check outcome ∈ script → outcome = .ok ()

@[simp] theorem checked_nil : Checked ([] : List (Action s)) := by simp [Checked]

@[simp] theorem checked_check_cons {outcome : Except BindError Unit} {script : List (Action s)} :
    Checked (.check outcome :: script) ↔ outcome = .ok () ∧ Checked script := by
  simp [Checked]

@[simp] theorem checked_ask_cons {q : Question s} {script : List (Action s)} :
    Checked (.ask q :: script) ↔ Checked script := by
  simp [Checked]

@[simp] theorem checked_append {script more : List (Action s)} :
    Checked (script ++ more) ↔ Checked script ∧ Checked more := by
  simp [Checked, or_imp, forall_and]

@[simp] theorem checked_map_ask (questions : List (Question s)) :
    Checked (questions.map .ask) := by
  simp [Checked]

@[simp] theorem checked_flatMap {f : α → List (Action s)} {l : List α} :
    Checked (l.flatMap f) ↔ ∀ a ∈ l, Checked (f a) := by
  simp only [Checked, List.mem_flatMap]
  constructor
  · exact fun h a ha outcome hc => h outcome ⟨a, ha, hc⟩
  · rintro h outcome ⟨a, ha, hc⟩
    exact h a ha outcome hc

namespace Traced

variable {reply : Question s → Except MapperError Unit}

theorem bind_assoc {γ : Type} (x : Traced α) (f : α → Traced β) (g : β → Traced γ) :
    (x.bind f).bind g = x.bind fun a => (f a).bind g := by
  obtain ⟨outcome, calls⟩ := x
  cases outcome with
  | error e => rfl
  | ok a => cases h : (f a).outcome <;> simp [Traced.bind, h]

/-- The actions of a script one after the other. -/
def perform (reply : Question s → Except MapperError Unit) : List (Action s) → Traced Unit
  | [] => .ofExcept (.ok ())
  | a :: rest => (a.perform reply).bind fun _ => perform reply rest

theorem perform_append (script more : List (Action s)) :
    perform reply (script ++ more) = (perform reply script).bind fun _ => perform reply more := by
  induction script with
  | nil => rfl
  | cons a rest ih => simp only [List.cons_append, perform, ih, bind_assoc]

theorem outcome_perform_eq_ok_iff {script : List (Action s)} :
    (perform reply script).outcome = .ok () ↔
      ∀ a ∈ script, (a.perform reply).outcome = .ok () := by
  induction script with
  | nil => simp [perform]
  | cons a rest ih =>
    rw [List.forall_mem_cons, ← ih]
    exact outcome_bind_eq_ok_iff.trans ⟨fun ⟨_, h⟩ => h, fun h => ⟨(), h⟩⟩

/-- A script fails with the failure of one of its actions. -/
theorem exists_of_outcome_perform_eq_error {script : List (Action s)} {e : BindError}
    (h : (perform reply script).outcome = .error e) :
    ∃ a ∈ script, (a.perform reply).outcome = .error e := by
  induction script with
  | nil => cases h
  | cons a rest ih =>
    rw [perform, outcome_bind] at h
    cases ha : (a.perform reply).outcome with
    | error e' =>
      rw [ha] at h
      cases h
      exact ⟨a, List.mem_cons_self, ha⟩
    | ok =>
      rw [ha] at h
      obtain ⟨b, hb, hbe⟩ := ih h
      exact ⟨b, List.mem_cons_of_mem _ hb, hbe⟩

/-- Checks that succeed leave no trace. -/
theorem perform_of_checked {script : List (Action s)} (h : Checked script) :
    perform reply script = perform reply ((script.filterMap Action.question?).map .ask) := by
  induction script with
  | nil => rfl
  | cons a rest ih =>
    cases a with
    | check outcome =>
      obtain ⟨rfl, hrest⟩ := checked_check_cons.1 h
      exact ih hrest
    | ask q =>
      have hrest := ih (checked_ask_cons.1 h)
      simp only [perform, hrest, List.filterMap_cons, Action.question?_ask, List.map_cons]

theorem perform_asks {questions : List (Question s)} (h : ∀ q ∈ questions, reply q = .ok ()) :
    perform reply (questions.map .ask) = ⟨.ok (), questions.map Question.call⟩ := by
  induction questions with
  | nil => rfl
  | cons q rest ih =>
    obtain ⟨hq, hrest⟩ := List.forall_mem_cons.1 h
    simp [perform, ih hrest, Action.perform_ask_ok hq, Traced.bind]

/-- The question that is refused is the last one that is put. -/
theorem perform_asks_of_refused {before after : List (Question s)} {q : Question s}
    {cause : MapperError} (h : ∀ p ∈ before, reply p = .ok ()) (hq : reply q = .error cause) :
    perform reply ((before ++ q :: after).map .ask) =
      ⟨.error (.mapper cause), (before ++ [q]).map Question.call⟩ := by
  rw [List.map_append, perform_append, perform_asks h]
  simp [perform, Action.perform_ask_error hq, Traced.bind]

/-- Whether a computation asks and fails as the script does. -/
def Performs (x : Traced α) (reply : Question s → Except MapperError Unit)
    (script : List (Action s)) : Prop :=
  ⟨verdict x.outcome, x.calls⟩ = perform reply script

theorem performs_pure (a : α) : (pure a : Traced α).Performs reply [] := rfl

theorem performs_ofExcept (x : Except BindError α) :
    (ofExcept x).Performs reply [.check (verdict x)] := by
  cases x <;> rfl

theorem performs_ask {method : MapperMethod} {n : Node s} {answer : Except MapperError α}
    (h : reply ⟨method, n⟩ = verdict answer) :
    (Mapper.ask method n answer).Performs reply [.ask ⟨method, n⟩] := by
  rw [Performs, perform]
  cases answer with
  | ok a =>
    rw [Action.perform_ask_ok h]
    rfl
  | error cause =>
    rw [Action.perform_ask_error h]
    rfl

theorem Performs.bind {x : Traced α} {f : α → Traced β} {script more : List (Action s)}
    (hx : x.Performs reply script) (hf : ∀ a, x.outcome = .ok a → (f a).Performs reply more) :
    (x >>= f).Performs reply (script ++ more) := by
  rw [Performs, perform_append, ← hx]
  obtain ⟨outcome, calls⟩ := x
  cases outcome with
  | error e => rfl
  | ok a =>
    rw [← hf a rfl]
    rfl

theorem Performs.bind_pure {x : Traced α} {script : List (Action s)} (hx : x.Performs reply script)
    (f : α → β) : (x >>= fun a => pure (f a)).Performs reply script := by
  rw [← List.append_nil script]
  exact hx.bind fun a _ => performs_pure (f a)

theorem performs_collect {f : α → Traced (List β)} {script : α → List (Action s)} {l : List α}
    (h : ∀ a ∈ l, (f a).Performs reply (script a)) :
    (collect f l).Performs reply (l.flatMap script) := by
  induction l with
  | nil => rfl
  | cons a rest ih =>
    obtain ⟨ha, hrest⟩ := List.forall_mem_cons.1 h
    exact ha.bind fun bs _ => (ih hrest).bind_pure (bs ++ ·)

/-- A computation whose mapper answers everything succeeds exactly if its checks do. -/
theorem Performs.exists_ok_iff {x : Traced α} {script : List (Action s)}
    (h : x.Performs reply script) (hreply : ∀ q, reply q = .ok ()) :
    (∃ a, x.outcome = .ok a) ↔ Checked script := by
  rw [← verdict_eq_ok_iff, show verdict x.outcome = (perform reply script).outcome by rw [← h],
    outcome_perform_eq_ok_iff]
  constructor
  · exact fun hall outcome hmem => hall (.check outcome) hmem
  · intro hchecked a ha
    cases a with
    | check outcome => exact hchecked outcome ha
    | ask q => rw [Action.perform_ask_ok (hreply q)]

/-- A computation that succeeds has put every question of its script. -/
theorem Performs.calls_of_ok {x : Traced α} {script : List (Action s)} (h : x.Performs reply script)
    {a : α} (hx : x.outcome = .ok a) :
    x.calls = (script.filterMap Action.question?).map Question.call := by
  have hok : (perform reply script).outcome = .ok () := by
    rw [← h, verdict_eq_ok_iff]
    exact ⟨a, hx⟩
  have hactions := outcome_perform_eq_ok_iff.1 hok
  have hchecked : Checked script := fun outcome hmem => hactions (.check outcome) hmem
  have hasks : ∀ q ∈ script.filterMap Action.question?, reply q = .ok () := by
    intro q hq
    obtain ⟨action, haction, hquestion⟩ := List.mem_filterMap.1 hq
    cases action with
    | check outcome => cases hquestion
    | ask q' =>
      obtain rfl := Option.some.inj hquestion
      exact Mapper.outcome_ask_eq_ok_iff.1 (hactions (.ask q') haction)
  rw [Performs, perform_of_checked hchecked, perform_asks hasks] at h
  exact congrArg calls h

theorem Performs.check_of_error {x : Traced α} {script : List (Action s)}
    (h : x.Performs reply script) (hreply : ∀ q, reply q = .ok ()) {e : BindError}
    (he : x.outcome = .error e) : .check (.error e) ∈ script := by
  have herror : (perform reply script).outcome = .error e := by
    rw [← h, verdict_eq_error_iff, he]
  obtain ⟨a, ha, hfails⟩ := exists_of_outcome_perform_eq_error herror
  cases a with
  | check outcome => exact hfails ▸ ha
  | ask q =>
    rw [Action.perform_ask_ok (hreply q)] at hfails
    cases hfails

end Traced

end YangBind
