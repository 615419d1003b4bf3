import YangBind.Proofs.Schema.PathPredicates
import YangBind.Proofs.Schema.PlainPath

/-! Path expressions joined by a slash. The names in a joined text are those of its two parts, and
whether it is absolute is up to the first part; so it denotes what the second part denotes where the
first one leads. -/

namespace YangBind

open Text

/-- The expression that takes more steps from where `expr` leads. -/
def PathExpr.followedBy : PathExpr → List PathStep → PathExpr
  | .relative steps, more => .relative (steps ++ more)
  | .absolute first steps, more => .absolute first (steps ++ more)

namespace PathExpr

variable {p : String}

theorem parse_append_slash (hp : trim p ≠ "") (q : String) :
    parse (p ++ "/" ++ q) = (parse p).followedBy ((namesIn q.toList).map .ofLocalName) := by
  have hhead : (trim (p ++ "/" ++ q)).toList.head? = (trim p).toList.head? := by
    rw [String.append_assoc, head?_trim_append hp]
  have hnames : namesIn (p ++ "/" ++ q).toList = namesIn p.toList ++ namesIn q.toList := by
    rw [← namesIn_append_slash]
    simp
  by_cases h : (trim p).toList.head? = some '/'
  · obtain ⟨first, rest, hfirst⟩ := namesIn_of_absolute h
    rw [parse_of_absolute h, parse_of_absolute (hhead.trans h), hnames, hfirst]
    simp [ofNames, followedBy]
  · have hjoined : (trim (p ++ "/" ++ q)).toList.head? ≠ some '/' := by rwa [hhead]
    rw [parse_of_relative h, parse_of_relative hjoined, hnames]
    simp [ofNames, followedBy]

end PathExpr

namespace Node

variable {s : Schema}

theorem follow?_followedBy (n : Node s) (expr : PathExpr) (more : List PathStep) :
    n.follow? (expr.followedBy more) = (n.follow? expr).bind (·.walk? more) := by
  cases expr with
  | relative steps => exact walk?_append n steps more
  | absolute first steps =>
    simp only [PathExpr.followedBy, follow?, walk?_append, Option.bind_assoc]

/-- A text joined from two by a slash denotes what the second one denotes where the first one leads,
provided that the first one is not blank and the second one is relative. -/
theorem resolve?_append (n : Node s) {p q : String} (hp : trim p ≠ "")
    (hq : (trim q).toList.head? ≠ some '/') :
    n.resolve? (p ++ "/" ++ q) = (n.resolve? p).bind (·.resolve? q) := by
  have hwalk : ∀ m : Node s, m.resolve? q = m.walk? ((namesIn q.toList).map .ofLocalName) := by
    intro m
    rw [resolve?, PathExpr.parse_of_relative hq]
    rfl
  rw [resolve?, PathExpr.parse_append_slash hp, follow?_followedBy]
  simp only [hwalk]
  rfl

/-- An absolute expression with a qualifier, a predicate and blanks around it, and a relative one
that stays, goes up and passes over an empty segment. -/
theorem resolve?_append_keyedList :
    trim " /m:l [k='x'] " ≠ "" ∧ (trim " ./../ l//v ").toList.head? ≠ some '/' ∧
      (keyedNode 4).resolve? " /m:l [k='x'] " = some (keyedNode 1) ∧
      (keyedNode 4).resolve? " /m:l [k='x'] / ./../ l//v " = some (keyedNode 3) := by
  have hp : trim " /m:l [k='x'] " ≠ "" := by decide +kernel
  have hq : (trim " ./../ l//v ").toList.head? ≠ some '/' := by decide +kernel
  have hfirst : (keyedNode 4).resolve? " /m:l [k='x'] " = some (keyedNode 1) := by decide +kernel
  have hjoin : " /m:l [k='x'] / ./../ l//v " = " /m:l [k='x'] " ++ "/" ++ " ./../ l//v " := by
    decide +kernel
  refine ⟨hp, hq, hfirst, ?_⟩
  rw [hjoin, resolve?_append (keyedNode 4) hp hq, hfirst]
  decide +kernel

end Node

end YangBind
