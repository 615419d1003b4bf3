import YangBind.NameMap

/-! JSON values, and how the types of this library are written as such values and read back. Reading
gives nothing if the value does not have the shape of the type. -/

namespace YangBind

/-- A JSON value. A number written with a decimal part is no integer, even where that part is zero:
it is kept as its digits and the count of those after the point, and no type is read from it. -/
inductive Json
  | null
  | bool (b : Bool)
  | int (n : Int)
  | decimal (digits : Int) (places : Nat)
  | text (s : String)
  | array (values : List Json)
  | object (fields : List (String × Json))
  deriving Inhabited

/-- How the values of a type are written and read. -/
class JsonCodec (α : Type) where
  encode : α → Json
  decode : Json → Option α

namespace JsonCodec

variable {α : Type}

instance : JsonCodec Bool where
  encode := .bool
  decode
    | .bool b => some b
    | _ => none

instance : JsonCodec String where
  encode := .text
  decode
    | .text s => some s
    | _ => none

/-- Words are the natural numbers that fit. -/
instance : JsonCodec UInt32 where
  encode n := .int n.toNat
  decode
    | .int (.ofNat n) => if n < UInt32.size then some (.ofNat n) else none
    | _ => none

/-- The absent value is null. -/
instance [JsonCodec α] : JsonCodec (Option α) where
  encode
    | none => .null
    | some a => encode a
  decode
    | .null => some none
    | j => (decode j).map some

instance [JsonCodec α] : JsonCodec (List α) where
  encode l := .array (l.map encode)
  decode
    | .array values => values.mapM decode
    | _ => none

instance [JsonCodec α] : JsonCodec (NameMap α) where
  encode m := .object (m.entries.map fun e => (e.1, encode e.2))
  decode
    | .object fields =>
      (fields.mapM fun e => (decode e.2).map fun a => (e.1, a)).map NameMap.ofList
    | _ => none

end JsonCodec

namespace Json

/-- The tag of a value that bears no data: the tag alone, or the one field of an object that is
null. -/
def tag? : Json → Option String
  | .text tag => some tag
  | .object [(tag, .null)] => some tag
  | _ => none

end Json

/-- Values without data, written as their tags. -/
@[reducible] def JsonCodec.ofTags {α : Type} (values : List α) (tag : α → String) :
    JsonCodec α where
  encode a := .text (tag a)
  decode j := j.tag?.bind fun t => values.find? (tag · == t)

/-- A record as it is read: its fields by name, or its values in the order of declaration. -/
inductive JsonRecord
  | named (fields : List (String × Json))
  | listed (values : List Json)

namespace JsonRecord

variable {α : Type} [JsonCodec α]

/-- The record in a value, of `size` fields at most where they are listed. Fields of other names are
of no account. -/
def ofJson? (size : Nat) : Json → Option JsonRecord
  | .object fields => some (.named fields)
  | .array values => if values.length ≤ size then some (.listed values) else none
  | _ => none

/-- The value of the field at place `i`. -/
def value? (r : JsonRecord) (i : Nat) (name : String) : Option Json :=
  match r with
  | .named fields => fields.lookup name
  | .listed values => values[i]?

/-- A field that must be there. -/
def required (r : JsonRecord) (i : Nat) (name : String) : Option α :=
  (r.value? i name).bind JsonCodec.decode

/-- A field that may be null, and may be missing where fields go by name. -/
def optional (r : JsonRecord) (i : Nat) (name : String) : Option (Option α) :=
  match r, r.value? i name with
  | _, some j => JsonCodec.decode j
  | .named _, none => some none
  | .listed _, none => none

/-- A field that has the value `default` where it is missing. -/
def orDefault (r : JsonRecord) (i : Nat) (name : String) (default : α) : Option α :=
  match r.value? i name with
  | some j => JsonCodec.decode j
  | none => some default

end JsonRecord

end YangBind
