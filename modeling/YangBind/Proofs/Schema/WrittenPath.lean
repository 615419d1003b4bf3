import YangBind.Proofs.Schema.PathNames
import YangBind.Text.Identifier

/-! Path expressions as they are written, steps with predicates, and the names that are read in
them. An expression is cut at its slashes before the predicates are dropped, so a predicate goes
unread as long as it holds no slash. One that holds a slash is torn, and its last piece is read as
a name that ends with a bracket. -/

namespace YangBind

open Text

/-- A predicate by the text between its brackets. -/
structure Predicate where
  content : String
  unbracketed : '[' ∉ content.toList ∧ ']' ∉ content.toList

def Predicate.chars (q : Predicate) : List Char := '[' :: (q.content.toList ++ [']'])

theorem Predicate.isTrimmed_chars (q : Predicate) : IsTrimmed q.chars where
  head := by simpa [chars] using (by decide : isBlank '[' = false)
  last := by
    rw [chars, ← List.cons_append, List.getLast?_concat]
    simpa using (by decide : isBlank ']' = false)

theorem Predicate.chars_of_slash {q : Predicate} (h : '/' ∈ q.content.toList) :
    ∃ front last, q.chars = front ++ '/' :: (last ++ [']']) ∧ '/' ∉ last ∧ '[' ∉ last := by
  obtain ⟨front, last, hcontent, hslash⟩ := exists_last_segment h
  have hfree := q.unbracketed.1
  rw [hcontent] at hfree
  exact ⟨'[' :: front, last, by simp [Predicate.chars, hcontent], hslash, by simp_all⟩

inductive WrittenName
  | self
  | up
  | node (qualifier : Option Identifier) (name : Identifier)

namespace WrittenName

def chars : WrittenName → List Char
  | .self => ['.']
  | .up => ['.', '.']
  | .node none name => name.text.toList
  | .node (some qualifier) name => qualifier.text.toList ++ ':' :: name.text.toList

theorem chars_ne_nil (name : WrittenName) : name.chars ≠ [] := by
  cases name with
  | self | up => simp [chars]
  | node qualifier name => cases qualifier <;> simp [chars, name.text_ne_empty]

theorem of_mem_chars {name : WrittenName} {c : Char} (h : c ∈ name.chars) :
    c = ':' ∨ identifierPart.contains c = true := by
  cases name with
  | self | up =>
    obtain rfl : c = '.' := by simpa [chars] using h
    exact .inr (by decide)
  | node qualifier name =>
    cases qualifier with
    | none => exact .inr (name.identifierPart_of_mem h)
    | some qualifier =>
      obtain h | h := List.mem_append.1 h
      · exact .inr (qualifier.identifierPart_of_mem h)
      · obtain rfl | h := List.mem_cons.1 h
        · exact .inl rfl
        · exact .inr (name.identifierPart_of_mem h)

theorem isBlank_of_mem_chars {name : WrittenName} {c : Char} (h : c ∈ name.chars) :
    isBlank c = false := by
  obtain rfl | h := of_mem_chars h
  · decide
  · exact isBlank_of_identifierPart h

theorem not_mem_chars {name : WrittenName} {c : Char} (hcolon : c ≠ ':')
    (hpart : identifierPart.contains c = false) : c ∉ name.chars := by
  intro h
  obtain rfl | h := of_mem_chars h
  · exact hcolon rfl
  · simp [hpart] at h

end WrittenName

/-- A step of a path expression as it is written. -/
structure WrittenStep where
  name : WrittenName
  predicates : List Predicate

namespace WrittenStep

def chars (step : WrittenStep) : List Char :=
  step.name.chars ++ step.predicates.flatMap Predicate.chars

def bare (step : WrittenStep) : WrittenStep := { step with predicates := [] }

/-- Whether one of the predicates holds a slash. -/
def IsTorn (step : WrittenStep) : Prop := ∃ q ∈ step.predicates, '/' ∈ q.content.toList

def names (step : WrittenStep) : List String := namesIn step.chars

variable {step : WrittenStep}

theorem chars_eq_cons (step : WrittenStep) : ∃ c tail, step.chars = c :: tail ∧ c ≠ '/' := by
  obtain ⟨c, tail, hname⟩ := List.exists_cons_of_ne_nil step.name.chars_ne_nil
  have hslash : '/' ∉ step.name.chars := WrittenName.not_mem_chars (by decide) (by decide)
  refine ⟨c, _, by rw [chars, hname, List.cons_append], ?_⟩
  rintro rfl
  simp [hname] at hslash

theorem isTrimmed_chars (step : WrittenStep) : IsTrimmed step.chars :=
  .append (.of_forall fun _ => WrittenName.isBlank_of_mem_chars)
    (.flatMap fun q _ => q.isTrimmed_chars)

theorem slash_not_mem_chars (h : ¬step.IsTorn) : '/' ∉ step.chars := by
  have hname : '/' ∉ step.name.chars := WrittenName.not_mem_chars (by decide) (by decide)
  simpa [chars, hname, Predicate.chars, IsTorn] using h

/-- Up to the first bracket, what follows a piece of a step is of no account. -/
theorem takeWhile_append_predicates {cs start : List Char} {predicates : List Predicate}
    (h : '[' ∉ cs) (hstart : start <+: predicates.flatMap Predicate.chars) :
    (cs ++ start).takeWhile (· != '[') = cs.takeWhile (· != '[') := by
  rw [takeWhile_bne_eq_self h, List.takeWhile_append_of_pos (forall_bne_of_not_mem h)]
  cases predicates with
  | nil => simp [List.prefix_nil.1 hstart]
  | cons q more =>
    cases start with
    | nil => simp
    | cons c start =>
      rw [List.flatMap_cons, Predicate.chars, List.cons_append, List.cons_prefix_cons] at hstart
      simp [hstart.1]

theorem localName_append_predicates {cs start : List Char} {predicates : List Predicate}
    (h : '[' ∉ cs) (hstart : start <+: predicates.flatMap Predicate.chars) :
    PathStep.localName (String.ofList (cs ++ start)) = PathStep.localName (String.ofList cs) := by
  simp [PathStep.localName, Text.before, takeWhile_append_predicates h hstart]

theorem localName_bracket {cs : List Char} (h : '[' ∉ cs) :
    ∃ start, PathStep.localName (String.ofList (cs ++ [']'])) = start ++ "]" := by
  have hbefore : (cs ++ [']']).takeWhile (· != '[') = cs ++ [']'] :=
    takeWhile_bne_eq_self (by simp [h])
  have htrim : trimChars (cs ++ [']']) = cs.dropWhile isBlank ++ [']'] := by
    simp [trimChars, dropWhile_concat (show isBlank ']' = false by decide),
      show isBlank ']' = false by decide]
  have hread : PathStep.localName (String.ofList (cs ++ [']'])) =
      (after? ':' (String.ofList (cs.dropWhile isBlank ++ [']']))).getD
        (String.ofList (cs.dropWhile isBlank ++ [']'])) := by
    simp [PathStep.localName, Text.before, Text.trim, hbefore, htrim]
  rw [hread]
  simp only [after?, String.toList_ofList, List.dropWhile_append]
  cases hcolon : (cs.dropWhile isBlank).dropWhile (· != ':') with
  | nil => exact ⟨String.ofList (cs.dropWhile isBlank), by simp [String.ofList_append]⟩
  | cons colon name => exact ⟨String.ofList name, by simp [String.ofList_append]⟩

theorem names_of_not_torn (h : ¬step.IsTorn) :
    step.names = [PathStep.localName (String.ofList step.name.chars)] := by
  have hbracket : '[' ∉ step.name.chars := WrittenName.not_mem_chars (by decide) (by decide)
  rw [names, namesIn_of_not_mem (slash_not_mem_chars h), chars,
    localName_append_predicates hbracket (List.prefix_refl _)]

theorem names_bare (h : ¬step.IsTorn) : step.bare.names = step.names := by
  have hbare : ¬step.bare.IsTorn := by simp [bare, IsTorn]
  rw [names_of_not_torn hbare, names_of_not_torn h, bare]

/-- Behind the last slash of a predicate stands a segment with the closing bracket, and nothing
opens a predicate before it. -/
theorem bracket_mem_names (h : step.IsTorn) : ∃ start, start ++ "]" ∈ step.names := by
  obtain ⟨q, hq, hslash⟩ := h
  obtain ⟨earlier, later, hpredicates⟩ := List.append_of_mem hq
  obtain ⟨front, last, hchars, hlast, hopen⟩ := q.chars_of_slash hslash
  have hclosed : '/' ∉ last ++ [']'] := by simp [hlast]
  obtain ⟨start, rest, hstart, hsplit⟩ :=
    splitOn_append hclosed (later.flatMap Predicate.chars)
  have hsegment : last ++ [']'] ++ start ∈ step.chars.splitOn '/' := by
    have hstep : step.chars = (step.name.chars ++ earlier.flatMap Predicate.chars ++ front) ++
        '/' :: (last ++ [']'] ++ later.flatMap Predicate.chars) := by
      simp [chars, hpredicates, hchars]
    rw [hstep, List.splitOn_append_cons_self, hsplit]
    simp
  obtain ⟨text, htext⟩ := localName_bracket hopen
  refine ⟨text, List.mem_map.2 ⟨_, hsegment, ?_⟩⟩
  rw [localName_append_predicates (by simp [hopen]) hstart, htext]

end WrittenStep

/-- A path expression as it is written. -/
structure WrittenPath where
  isAbsolute : Bool
  first : WrittenStep
  rest : List WrittenStep

namespace WrittenPath

def steps (p : WrittenPath) : List WrittenStep := p.first :: p.rest

def text (p : WrittenPath) : String :=
  String.ofList ((if p.isAbsolute then ['/'] else []) ++
    ['/'].intercalate (p.steps.map WrittenStep.chars))

/-- The expression with its predicates deleted. -/
def bare (p : WrittenPath) : WrittenPath :=
  { p with first := p.first.bare, rest := p.rest.map WrittenStep.bare }

def IsTorn (p : WrittenPath) : Prop := ∃ step ∈ p.steps, step.IsTorn

/-- The names that are read in the segments of an expression, without the empty one before the
slash that it may begin with. -/
def names (p : WrittenPath) : List String := p.steps.flatMap WrittenStep.names

theorem isTrimmed_text (p : WrittenPath) : IsTrimmed p.text.toList := by
  have hslash : IsTrimmed ['/'] := .of_forall (by simpa using (by decide : isBlank '/' = false))
  rw [text, String.toList_ofList]
  refine .append ?_ (.intercalate hslash ?_)
  · split
    · exact hslash
    · exact .of_forall (by simp)
  · simp only [List.mem_map, forall_exists_index, and_imp, forall_apply_eq_imp_iff₂]
    exact fun step _ => step.isTrimmed_chars

theorem parse_text (p : WrittenPath) : PathExpr.parse p.text = .ofNames p.isAbsolute p.names := by
  have hnames : namesIn (['/'].intercalate (p.steps.map WrittenStep.chars)) = p.names := by
    rw [steps, List.map_cons, namesIn_intercalate, ← List.map_cons, List.flatMap_map]
    rfl
  have htrim := p.isTrimmed_text
  rw [text, String.toList_ofList] at htrim
  rw [text, ← hnames]
  cases habsolute : p.isAbsolute with
  | true => exact PathExpr.parse_slash (by simpa [habsolute] using htrim)
  | false =>
    refine PathExpr.parse_of_head (by simpa [habsolute] using htrim) ?_
    obtain ⟨c, tail, hfirst, hc⟩ := p.first.chars_eq_cons
    cases hrest : p.rest <;> simpa [steps, List.intercalate, hfirst, hrest] using hc

theorem names_bare {p : WrittenPath} (h : ¬p.IsTorn) : p.bare.names = p.names := by
  have hsteps : p.bare.steps = p.steps.map WrittenStep.bare := rfl
  have hnames : ∀ step ∈ p.steps, step.bare.names = step.names :=
    fun step hstep => WrittenStep.names_bare fun htorn => h ⟨step, hstep, htorn⟩
  rw [names, names, hsteps, List.flatMap_map, List.flatMap_def, List.map_congr_left hnames,
    List.flatMap_def]

end WrittenPath

end YangBind
