import SqlTree.Json.Basic
import SqlTree.Time.Instant
import SqlTree.Uuid

namespace SqlTree

inductive Value where
  | null
  | bool (b : Bool)
  | int (n : Int64)
  | float (x : Double)
  | text (s : String)
  | bytes (b : List UInt8)
  | timestamp (t : Instant)
  | uuid (u : Uuid)
  | json (j : Json)

/-- The values of one result row, in the order of the projection. -/
abbrev Record := List Value

namespace Value

def isNull : Value → Bool
  | null => true
  | _ => false

def kindName : Value → String
  | null => "NULL"
  | bool _ => "bool"
  | int _ => "integer"
  | float _ => "float"
  | text _ => "text"
  | bytes _ => "blob"
  | timestamp _ => "timestamp"
  | uuid _ => "uuid"
  | json _ => "json"

/-- Equality of values; floats compare as numbers, so a NaN differs from itself. -/
def equal : Value → Value → Bool
  | null, null => true
  | bool a, bool b => a == b
  | int m, int n => m == n
  | float x, float y => x.equal y
  | text s, text t => s == t
  | bytes a, bytes b => a == b
  | timestamp s, timestamp t => s == t
  | uuid u, uuid v => u == v
  | json i, json j => i.equal j
  | _, _ => false

instance : BEq Value := ⟨equal⟩

def ofOption (value : Option Value) : Value := value.getD null

def ofInt (n : Int) : Value := int (Int64.ofInt n)

end Value

end SqlTree
