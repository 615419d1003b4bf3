import YangBind.Text.Segment

/-! Schema paths: the names of the data nodes from the module boundary down to a node. A path that
starts at the boundary has an empty first segment, so `/module/a/b` is `["", "module", "a", "b"]`
and `a/b` is `["a", "b"]`. -/

namespace YangBind

structure SchemaPath where
  segments : List String
  deriving DecidableEq, Inhabited

namespace SchemaPath

/-- The bare module boundary. -/
def root : SchemaPath := ⟨[""]⟩

/-- Reads a path written with slashes. The empty text is the empty path, and a lone slash is the
boundary. -/
def parse (text : String) : SchemaPath :=
  if text = "" then ⟨[]⟩
  else if text = "/" then root
  else ⟨Text.split '/' text⟩

/-- Writes a path with slashes. The boundary alone is written as a lone slash. -/
def render (p : SchemaPath) : String :=
  if p = root then "/" else Text.join '/' p.segments

instance : ToString SchemaPath := ⟨render⟩

def length (p : SchemaPath) : Nat := p.segments.length

def isEmpty (p : SchemaPath) : Bool := p.segments.isEmpty

/-- Whether the path starts at the module boundary. -/
def isAbsolute (p : SchemaPath) : Bool := p.segments.head? == some ""

def last? (p : SchemaPath) : Option String := p.segments.getLast?

def startsWith (p base : SchemaPath) : Bool := base.segments.isPrefixOf p.segments

/-- Whether `p` lies strictly below `base`. -/
def isBelow (p base : SchemaPath) : Bool := base.length < p.length && p.startsWith base

/-- The rest of `p` after `base`, if `p` begins with it. -/
def after? (p base : SchemaPath) : Option SchemaPath :=
  (base.segments.isPrefixOf? p.segments).map SchemaPath.mk

def drop (p : SchemaPath) (n : Nat) : SchemaPath := ⟨p.segments.drop n⟩

def child (p : SchemaPath) (name : String) : SchemaPath := ⟨p.segments ++ [name]⟩

/-- The path that leads from the module boundary along `p`. -/
def fromBoundary (p : SchemaPath) : SchemaPath := ⟨"" :: p.segments⟩

/-- Paths are ordered segment by segment, a path before those that extend it. -/
instance : Ord SchemaPath := ⟨fun p q => compare p.segments q.segments⟩

theorem segments_inj {p q : SchemaPath} : p.segments = q.segments ↔ p = q := by
  cases p
  cases q
  simp

theorem startsWith_iff {p base : SchemaPath} :
    p.startsWith base = true ↔ base.segments <+: p.segments :=
  List.isPrefixOf_iff_prefix

theorem isBelow_iff {p base : SchemaPath} :
    p.isBelow base = true ↔ ∃ rest, rest ≠ [] ∧ p.segments = base.segments ++ rest := by
  simp only [isBelow, length, Bool.and_eq_true, startsWith_iff]
  constructor
  · rintro ⟨hlt, rest, h⟩
    refine ⟨rest, ?_, h.symm⟩
    rintro rfl
    simp [← h] at hlt
  · rintro ⟨rest, hne, h⟩
    refine ⟨?_, rest, h.symm⟩
    have := List.length_pos_iff.2 hne
    simp [h, this]

end SchemaPath

end YangBind
