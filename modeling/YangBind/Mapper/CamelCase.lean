import YangBind.Text.LetterCase
import YangBind.Text.Quoted
import YangBind.Mapper.Basic

/-! The camel-case mapper: names in upper camel case, and the scalar types of the schema as machine
types. Types that are none of the built-in ones are looked up among the enumerations it was given.
-/

namespace YangBind

/-- The mapper's table of enumerations, by the schema type they come from. -/
structure CamelCase where
  enums : NameMap EnumeratedType
  deriving Inhabited

namespace CamelCase

variable {s : Schema}

/-- Of several enumerations for one schema type the last counts. -/
def ofEnums (enums : List EnumeratedType) : CamelCase :=
  ⟨.ofList (enums.map fun e => (e.typeName, e))⟩

inductive TypeError
  | untyped (leaf : SchemaPath)
  | chainTooDeep (leaf : SchemaPath)
  | unresolved (target : String) (leaf : SchemaPath)
  | unknownType (name : String) (leaf : SchemaPath)
  deriving DecidableEq

open Text in
def TypeError.message : TypeError → String
  | .untyped leaf => s!"{leaf} has no leaf type"
  | .chainTooDeep leaf => s!"leafref chain through {leaf} is too deep"
  | .unresolved target leaf => s!"leafref {quoted target} at {leaf} does not resolve"
  | .unknownType name leaf => s!"no mapping for YANG type {quoted name} at {leaf}"

def isDivider (c : Char) : Bool := c == '-' || c == '.'

def capitalize : List Char → List Char
  | [] => []
  | c :: rest => Text.upperChar c ++ rest

/-- The words of a schema name, each with a capital, run together. -/
def camelCase (name : String) : String :=
  String.ofList ((name.toList.splitOnP isDivider).flatMap capitalize)

/-- The built-in types: native type and zero value of each. -/
def builtins : List (String × String × String) := [
  ("string", "String", "String::new()"),
  ("boolean", "bool", "false"),
  ("empty", "bool", "false"),
  ("int8", "i8", "0"),
  ("int16", "i16", "0"),
  ("int32", "i32", "0"),
  ("int64", "i64", "0"),
  ("uint8", "u8", "0"),
  ("uint16", "u16", "0"),
  ("uint32", "u32", "0"),
  ("uint64", "u64", "0"),
  ("decimal64", "f64", "0.0"),
  ("binary", "Vec<u8>", "Vec::new()")]

/-- The type of this name; the enumerations come before the built-in types. -/
def namedType? (c : CamelCase) (name : String) : Option MappedType :=
  match c.enums.find? name with
  | some e => some {
      nativeType := e.name
      isEnumerated := true
      zeroValue := e.name ++ "::Unset" }
  | none =>
    (builtins.lookup name).map fun (nativeType, zeroValue) => { nativeType, zeroValue }

/-- How many leafrefs a chain may have; longer ones count as cycles. -/
def maxChain : Nat := 16

/-- The scalar type of a leaf. A leafref has the type of its target; `hops` more leafrefs may follow
one another. -/
def scalarType (c : CamelCase) (hops : Nat) (n : Node s) : Except TypeError MappedType :=
  match n.entry.leafType with
  | none => .error (.untyped n.schemaPath)
  | some (.named name) =>
    match c.namedType? name with
    | some t => .ok t
    | none => .error (.unknownType name n.schemaPath)
  | some (.leafref path) =>
    match hops with
    | 0 => .error (.chainTooDeep n.schemaPath)
    | hops + 1 =>
      match n.leafrefTarget? with
      | none => .error (.unresolved path n.schemaPath)
      | some target => c.scalarType hops target

def scalar (c : CamelCase) (n : Node s) : Except MapperError MappedType :=
  (c.scalarType maxChain n).mapError fun e => ⟨e.message⟩

/-- The type of a field: none without a leaf type, and a sequence for a leaf-list. The default is
the first one of the leaf itself, not of what it refers to. -/
def fieldType (c : CamelCase) (n : Node s) : Except MapperError (Option MappedType) := do
  if n.entry.leafType.isNone then return none
  let t ← c.scalar n
  let t :=
    if n.entry.isLeafList then
      { t with nativeType := s!"Vec<{t.nativeType}>", zeroValue := "Vec::new()" }
    else t
  return some { t with defaultValue := n.entry.defaults.head? }

/-- Whether the name of `n` goes into the names of directories. Folded schemas leave out the module
and the containers that were folded. -/
def namesDirectory (compress : CompressBehaviour) (n : Node s) : Bool :=
  !compress.compressEnabled || (n.kind != .module && n.name != "config" && n.name != "state")

/-- The names on the data path of `n`, joined by underscores. -/
def directoryName (compress : CompressBehaviour) (n : Node s) : String :=
  match n.dataAncestry.filter (namesDirectory compress) with
  | [] => camelCase n.name
  | parts => Text.join '_' (parts.map fun p => camelCase p.name)

/-- The name of the node's module as a package name, where packages nest. -/
def packageName (nested : Bool) (n : Node s) : String :=
  if nested then n.rootModule.map fun c => if isDivider c then '_' else c else ""

def mapper (c : CamelCase) : Mapper where
  fieldName n := .ok (camelCase n.name)
  directoryName n compress := .ok (directoryName compress n)
  keyLeafType n _ := some <$> c.scalar n
  leafType n _ := c.fieldType n
  packageName n _ nested := .ok (packageName nested n)

end CamelCase

end YangBind
