import SqlTree.Value

/-!
Arguments as PostgreSQL parameters. How a native type is written and read is up to the client
library; as which of them a value is handed over goes by the type of the parameter.
-/

namespace SqlTree.Postgres

/-- The types of parameters and columns: those that are told apart here, and all others. -/
inductive ParamType (τ : Type) where
  | bool
  | int2
  | int4
  | int8
  | oid
  | float4
  | float8
  | bytea
  | timestamp
  | timestamptz
  | uuid
  | json
  | jsonb
  | other (type : τ)
  deriving DecidableEq

inductive IsNull where
  | yes
  | no
  deriving DecidableEq

inductive EncodeFault (τ : Type) where
  /-- the library does not write this native type for the type of the parameter -/
  | wrongType (native : String) (type : ParamType τ)
  | outOfRange
  /-- worded by the library -/
  | unwritten (detail : String)

/-- A step that may append to the message, or fail; what it did to the message before remains. -/
abbrev Writing (τ α : Type) := ExceptT (EncodeFault τ) (StateM (List UInt8)) α

/-- What the library does with one native type. -/
structure Codec (τ α : Type) where
  name : String
  accepts : ParamType τ → Bool
  write : α → ParamType τ → Writing τ IsNull
  /-- the cell in the column at this place, or what is wrong with it; NULL has no bytes -/
  read : Nat → ParamType τ → Option (List UInt8) → Except String (Option α)

/-- The native types that values are handed over as, a single as its bits. -/
structure Library (τ : Type) where
  bool : Codec τ Bool
  int16 : Codec τ Int16
  int32 : Codec τ Int32
  int64 : Codec τ Int64
  uint32 : Codec τ UInt32
  single : Codec τ UInt32
  double : Codec τ Double
  string : Codec τ String
  bytes : Codec τ (List UInt8)
  /-- a time without a zone -/
  naive : Codec τ Instant
  instant : Codec τ Instant
  uuid : Codec τ Uuid
  json : Codec τ Json
  /-- how it is told that the parameter at this place cannot be sent -/
  refusal : Nat → EncodeFault τ → String

variable {τ α : Type}

/-- Writes a value only where its native type is for the type of the parameter. -/
def Codec.encode (c : Codec τ α) (v : α) (type : ParamType τ) : Writing τ IsNull :=
  if c.accepts type then c.write v type else throw (.wrongType c.name type)

def narrow (low high : Int) (make : Int → α) (n : Int64) : Writing τ α :=
  if low ≤ n.toInt ∧ n.toInt ≤ high then pure (make n.toInt) else throw .outOfRange

def toInt16 : Int64 → Writing τ Int16 := narrow (-0x8000) 0x7fff Int16.ofInt

def toInt32 : Int64 → Writing τ Int32 := narrow (-0x80000000) 0x7fffffff Int32.ofInt

def toUInt32 : Int64 → Writing τ UInt32 := narrow 0 0xffffffff fun n => .ofNat n.toNat

variable (l : Library τ)

/-- The width of a number goes by the type of the parameter. -/
def encodeInteger (n : Int64) : ParamType τ → Writing τ IsNull
  | .int2 => do l.int16.encode (← toInt16 n) .int2
  | .int4 => do l.int32.encode (← toInt32 n) .int4
  | .oid => do l.uint32.encode (← toUInt32 n) .oid
  | .float4 => l.single.encode (Double.singleOfInt n.toInt) .float4
  | .float8 => l.double.encode (Double.ofInt n.toInt) .float8
  | type => l.int64.encode n type

def encode (v : Value) (type : ParamType τ) : Writing τ IsNull :=
  match v with
  | .null => pure .yes
  | .bool b => l.bool.encode b type
  | .int n => encodeInteger l n type
  | .float x =>
      match type with
      | .float4 => l.single.encode x.toSingle .float4
      | type => l.double.encode x type
  | .text s => l.string.encode s type
  | .bytes b => l.bytes.encode b type
  | .timestamp t =>
      match type with
      | .timestamp => l.naive.encode t .timestamp
      | type => l.instant.encode t type
  | .uuid u => l.uuid.encode u type
  | .json j => l.json.encode j type

end SqlTree.Postgres
