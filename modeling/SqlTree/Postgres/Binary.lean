import SqlTree.Bytes.BigEndian
import SqlTree.Json.Reader
import SqlTree.Json.Written
import SqlTree.Postgres.Parameter
import SqlTree.Text.Utf8

/-!
The binary format of PostgreSQL, as a library to run with: numbers are big-endian and as wide as
their type, times count microseconds since 2000, and all errors are told in the same words.
-/

namespace SqlTree.Postgres

inductive Builtin where
  | text
  | varchar
  | bpchar
  | name
  | unknown
  | date
  | numeric
  deriving DecidableEq

namespace Builtin

def isText : Builtin → Bool
  | text | varchar | bpchar | name | unknown => true
  | date | numeric => false

def types : List (String × ParamType Builtin) :=
  [("bool", .bool), ("int2", .int2), ("int4", .int4), ("int8", .int8), ("oid", .oid),
    ("float4", .float4), ("float8", .float8), ("text", .other text), ("varchar", .other varchar),
    ("bpchar", .other bpchar), ("name", .other name), ("unknown", .other unknown),
    ("bytea", .bytea), ("timestamp", .timestamp), ("timestamptz", .timestamptz),
    ("date", .other date), ("numeric", .other numeric), ("uuid", .uuid), ("json", .json),
    ("jsonb", .jsonb)]

end Builtin

namespace Binary

/-- A native type whose values are written without fail; `none` stands for bytes that are not a
value of it. -/
def codec {α : Type} (detail name : String) (accepts : ParamType Builtin → Bool)
    (bytes : ParamType Builtin → α → List UInt8)
    (value? : ParamType Builtin → List UInt8 → Option α) : Codec Builtin α where
  name := name
  accepts := accepts
  write v type := do
    modify (· ++ bytes type v)
    pure .no
  read _ type cell :=
    if accepts type then
      match cell with
      | none => .ok none
      | some b =>
          match value? type b with
          | some v => .ok (some v)
          | none => .error detail
    else .error detail

def fixed {α : Type} (width : Nat) (make : List UInt8 → α) (b : List UInt8) : Option α :=
  if b.length = width then some (make b) else none

/-- 2000-01-01, from which PostgreSQL counts. -/
def epoch : Int := 946684800

/-- Whole microseconds since 2000-01-01; the rest is cut off toward that day. -/
def microseconds (t : Instant) : Int := ((t.secs - epoch) * 1000000000 + t.nanos).tdiv 1000

def ofMicroseconds? (n : Int) : Option Instant :=
  let secs := epoch + n.fdiv 1000000
  if Instant.earliest ≤ secs ∧ secs ≤ Instant.latest then
    some ⟨secs, (n.fmod 1000000).toNat * 1000⟩
  else none

def time (detail name : String) (own : ParamType Builtin) : Codec Builtin Instant :=
  codec detail name (· == own) (fun _ t => Bytes.ofInt 8 (microseconds t))
    fun _ b => (fixed 8 Bytes.toInt b).bind ofMicroseconds?

def isText : ParamType Builtin → Bool
  | .other type => type.isText
  | _ => false

def library (detail : String) : Library Builtin where
  bool := codec detail "bool" (· == .bool) (fun _ b => [if b then 1 else 0])
    fun _ => fixed 1 (· != [0])
  int16 := codec detail "i16" (· == .int2) (fun _ n => Bytes.ofInt 2 n.toInt)
    fun _ => fixed 2 fun b => Int16.ofInt (Bytes.toInt b)
  int32 := codec detail "i32" (· == .int4) (fun _ n => Bytes.ofInt 4 n.toInt)
    fun _ => fixed 4 fun b => Int32.ofInt (Bytes.toInt b)
  int64 := codec detail "i64" (· == .int8) (fun _ n => Bytes.ofInt 8 n.toInt)
    fun _ => fixed 8 fun b => Int64.ofInt (Bytes.toInt b)
  uint32 := codec detail "u32" (· == .oid) (fun _ n => Bytes.ofNat 4 n.toNat)
    fun _ => fixed 4 fun b => UInt32.ofNat (Bytes.toNat b)
  single := codec detail "f32" (· == .float4) (fun _ bits => Bytes.ofNat 4 bits.toNat)
    fun _ => fixed 4 fun b => UInt32.ofNat (Bytes.toNat b)
  double := codec detail "f64" (· == .float8) (fun _ x => Bytes.ofNat 8 x.bits.toNat)
    fun _ => fixed 8 fun b => ⟨UInt64.ofNat (Bytes.toNat b)⟩
  string := codec detail "alloc::string::String" isText (fun _ s => Text.utf8 s)
    fun _ => Text.ofUtf8?
  bytes := codec detail "alloc::vec::Vec<u8>" (· == .bytea) (fun _ b => b) fun _ => some
  naive := time detail "chrono::naive::datetime::NaiveDateTime" .timestamp
  instant := time detail "chrono::datetime::DateTime<chrono::offset::utc::Utc>" .timestamptz
  uuid := codec detail "uuid::Uuid" (· == .uuid) (fun _ u => u.bytes) fun _ => Uuid.ofBytes?
  json := codec detail "serde_json::value::Value" (fun type => type == .json || type == .jsonb)
    (fun type j => (if type = .jsonb then [1] else []) ++ Text.utf8 j.text)
    fun
      | .jsonb, 1 :: rest => Json.readBytes? rest
      | .jsonb, _ => none
      | _, b => Json.readBytes? b
  refusal _ _ := detail

end Binary

end SqlTree.Postgres
