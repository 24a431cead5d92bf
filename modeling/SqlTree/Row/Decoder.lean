import SqlTree.Error
import SqlTree.Json.Reader
import SqlTree.Text.Integer
import SqlTree.Text.Quoted
import SqlTree.Time.Reading
import SqlTree.Value

namespace SqlTree

/-- Why a column value cannot be read as what was asked for. -/
inductive DecodeFault where
  | mismatch (expected : String) (v : Value)
  | beyond32 (n : Int64)
  | stamp (text : String) (fault : StampFault)
  | unixTime (secs : Int64)
  | uuidText (text detail : String)
  | uuidLength (length : Nat)
  | jsonText (detail : String)
  | jsonShape (detail : String)

def DecodeFault.message : DecodeFault → String
  | mismatch expected v =>
      if v.isNull then "unexpected NULL, expected " ++ expected
      else "expected " ++ expected ++ ", got " ++ v.kindName
  | beyond32 n => "integer " ++ Text.integer n.toInt ++ " out of range for i32"
  | stamp text fault => "invalid timestamp " ++ Text.quoted text ++ ": " ++ fault.message
  | unixTime secs => "unix time " ++ Text.integer secs.toInt ++ " out of range"
  | uuidText text detail => "invalid uuid " ++ Text.quoted text ++ ": " ++ detail
  | uuidLength length =>
      "invalid uuid bytes: invalid length: expected 16 bytes, found " ++ length.repr
  | jsonText detail => "invalid JSON: " ++ detail
  | jsonShape detail => detail

/-- How the libraries for UUIDs and JSON word their refusals. -/
structure Details where
  uuid : String → String
  jsonText : String → String
  jsonBytes : List UInt8 → String

structure Decoder (α : Type) where
  decode : Value → Except DecodeFault α
  /-- what a read gives before there are rows -/
  placeholder : α

namespace Decoder

def string : Decoder String where
  decode
    | .text s => .ok s
    | .uuid u => .ok u.text
    | v => .error (.mismatch "text" v)
  placeholder := ""

def int64 : Decoder Int64 where
  decode
    | .int n => .ok n
    | .bool b => .ok (if b then 1 else 0)
    | v => .error (.mismatch "integer" v)
  placeholder := 0

def int32 : Decoder Int64 where
  decode v := do
    let n ← int64.decode v
    if -2147483648 ≤ n.toInt ∧ n.toInt ≤ 2147483647 then .ok n else .error (.beyond32 n)
  placeholder := 0

def float : Decoder Double where
  decode
    | .float x => .ok x
    | .int n => .ok (Double.ofInt n.toInt)
    | v => .error (.mismatch "float" v)
  placeholder := Double.zero

/-- Booleans may be stored as the integers 0 and 1. -/
def bool : Decoder Bool where
  decode
    | .bool b => .ok b
    | .int n =>
        if n = 0 then .ok false
        else if n = 1 then .ok true
        else .error (.mismatch "bool" (.int n))
    | v => .error (.mismatch "bool" v)
  placeholder := false

def bytes : Decoder (List UInt8) where
  decode
    | .bytes b => .ok b
    | .text s => .ok (Text.utf8 s)
    | v => .error (.mismatch "blob" v)
  placeholder := []

def time : Decoder Instant where
  decode
    | .timestamp t => .ok t
    | .text s => (Stamp.read s).mapError (.stamp s)
    | .int secs =>
        match Instant.ofSeconds? secs.toInt with
        | some t => .ok t
        | none => .error (.unixTime secs)
    | v => .error (.mismatch "timestamp" v)
  placeholder := Instant.epoch

def uuid (details : Details) : Decoder Uuid where
  decode
    | .uuid u => .ok u
    | .text s =>
        match Uuid.read? s with
        | some u => .ok u
        | none => .error (.uuidText s (details.uuid s))
    | .bytes b =>
        match Uuid.ofBytes? b with
        | some u => .ok u
        | none => .error (.uuidLength b.length)
    | v => .error (.mismatch "uuid" v)
  placeholder := Uuid.nil

def json (details : Details) : Decoder Json where
  decode
    | .json j => .ok j
    | .text s =>
        match Json.read? s with
        | some j => .ok j
        | none => .error (.jsonText (details.jsonText s))
    | .bytes b =>
        match Json.readBytes? b with
        | some j => .ok j
        | none => .error (.jsonText (details.jsonBytes b))
    | v => .error (.mismatch "json" v)
  placeholder := .null

/-- NULL is read as nothing. -/
def optional {α : Type} (dec : Decoder α) : Decoder (Option α) where
  decode v := if v.isNull then .ok none else (dec.decode v).map some
  placeholder := none

end Decoder

end SqlTree
