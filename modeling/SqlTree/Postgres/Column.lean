import SqlTree.Error
import SqlTree.Postgres.Parameter

namespace SqlTree.Postgres

variable {τ : Type} (l : Library τ) (place : Nat)

def Codec.decode {α : Type} (c : Codec τ α) (make : α → Value) (type : ParamType τ)
    (cell : Option (List UInt8)) : Except String Value :=
  (c.read place type cell).map fun v => Value.ofOption (v.map make)

def decodeColumn (type : ParamType τ) (cell : Option (List UInt8)) : Except String Value :=
  match type with
  | .bool => l.bool.decode place .bool .bool cell
  | .int2 => l.int16.decode place (fun n => .ofInt n.toInt) .int2 cell
  | .int4 => l.int32.decode place (fun n => .ofInt n.toInt) .int4 cell
  | .int8 => l.int64.decode place .int .int8 cell
  | .oid => l.uint32.decode place (fun n => .ofInt n.toNat) .oid cell
  | .float4 => l.single.decode place (fun bits => .float (Double.ofSingle bits)) .float4 cell
  | .float8 => l.double.decode place .float .float8 cell
  | .bytea => l.bytes.decode place .bytes .bytea cell
  | .timestamptz => l.instant.decode place .timestamp .timestamptz cell
  | .timestamp => l.naive.decode place .timestamp .timestamp cell
  | .uuid => l.uuid.decode place .uuid .uuid cell
  | .json => l.json.decode place .json .json cell
  | .jsonb => l.json.decode place .json .jsonb cell
  | .other type => l.string.decode place .text (.other type) cell

/-- Columns from a place on, up to the first one that cannot be read. -/
def decodeFrom (place : Nat) :
    List ((String × ParamType τ) × Option (List UInt8)) → Except Error Record
  | [] => .ok []
  | ((name, type), cell) :: rest => do
      let v ← (decodeColumn l place type cell).mapError fun detail => .decode name (.value detail)
      let others ← decodeFrom (place + 1) rest
      pure (v :: others)

def decodeRow (columns : List (String × ParamType τ)) (cells : List (Option (List UInt8))) :
    Except Error Record := decodeFrom l 0 (columns.zip cells)

end SqlTree.Postgres
