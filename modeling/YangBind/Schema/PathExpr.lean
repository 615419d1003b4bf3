import YangBind.Text.Blank
import YangBind.Schema.Ancestry
import YangBind.Schema.DataTree

/-! YANG path expressions, as leafrefs use them. An expression is a sequence of steps separated by
slashes; module qualifiers (`module:name`) and predicates (`name[...]`) are dropped from a step
before it is read. An absolute expression begins with a slash: its first step names a top-level
node of any module. -/

namespace YangBind

inductive PathStep
  | stay
  | up
  | down (name : String)
  deriving DecidableEq

/-- A path expression: steps from where one stands, or from the top-level node `first`. -/
inductive PathExpr
  | relative (steps : List PathStep)
  | absolute (first : String) (steps : List PathStep)
  deriving DecidableEq

namespace PathStep

/-- The local name in a segment: what stands before any predicate, without blanks around it and
without a module qualifier. -/
def localName (segment : String) : String :=
  let bare := Text.trim (Text.before '[' segment)
  (Text.after? ':' bare).getD bare

/-- An empty segment stays in place, like a dot. -/
def ofLocalName (name : String) : PathStep :=
  if name = "" ∨ name = "." then .stay
  else if name = ".." then .up
  else .down name

end PathStep

namespace PathExpr

/-- Every text is an expression. Blanks around the whole of it do not count. -/
def parse (text : String) : PathExpr :=
  let text := Text.trim text
  let names := (Text.split '/' text).map PathStep.localName
  match text.toList.head?, names with
  | some '/', _ :: first :: rest => .absolute first (rest.map .ofLocalName)
  | _, names => .relative (names.map .ofLocalName)

end PathExpr

namespace Node

variable {s : Schema}

def step? (n : Node s) : PathStep → Option (Node s)
  | .stay => some n
  | .up => n.dataParent?
  | .down name => n.dataChild? name

def walk? (n : Node s) (steps : List PathStep) : Option (Node s) := steps.foldlM step? n

/-- The node that an expression denotes when it stands at `n`. -/
def follow? (n : Node s) : PathExpr → Option (Node s)
  | .relative steps => n.walk? steps
  | .absolute first steps => (s.topLevel? first).bind (·.walk? steps)

def resolve? (n : Node s) (text : String) : Option (Node s) := n.follow? (.parse text)

def leafrefTarget? (n : Node s) : Option (Node s) := n.entry.leafrefPath?.bind n.resolve?

/-- The key leaves of a list in the order of its keys, a leafref replaced by its target. -/
def keyLeaves (n : Node s) : List (Node s) :=
  (n.entry.keys.filterMap n.dataChild?).map fun leaf => leaf.leafrefTarget?.getD leaf

end Node

end YangBind
