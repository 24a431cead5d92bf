import SqlTree.Json.Written
import SqlTree.Text.Quoted
import SqlTree.Value

namespace SqlTree

/-- Positional from 0.0001 to below 10^16; a positive exponent has no sign. -/
def loggedFloat : FloatStyle := ⟨-4, 16, false, .up⟩

def commaList (items : List String) : String :=
  "[" ++ String.intercalate ", " items ++ "]"

namespace Json

mutual

def logged : Json → String
  | null => "Null"
  | bool true => "Bool(true)"
  | bool false => "Bool(false)"
  | number n => "Number(" ++ numberText n ++ ")"
  | string s => "String(" ++ Text.quoted s ++ ")"
  | array items => "Array " ++ commaList (loggedItems items)
  | object members => "Object \x7b" ++ String.intercalate ", " (loggedMembers members) ++ "\x7d"

def loggedItems : List Json → List String
  | [] => []
  | item :: rest => item.logged :: loggedItems rest

def loggedMembers : List (String × Json) → List String
  | [] => []
  | (key, value) :: rest => (Text.quoted key ++ ": " ++ value.logged) :: loggedMembers rest

end

end Json

namespace Value

def logged : Value → String
  | null => "Null"
  | bool true => "Bool(true)"
  | bool false => "Bool(false)"
  | int n => "Int(" ++ Text.integer n.toInt ++ ")"
  | float x => "Float(" ++ loggedFloat.write x ++ ")"
  | text s => "Text(" ++ Text.quoted s ++ ")"
  | bytes b => "Bytes(" ++ commaList (b.map fun byte => byte.toNat.repr) ++ ")"
  | timestamp t => "Timestamp(" ++ t.text ++ ")"
  | uuid u => "Uuid(" ++ u.text ++ ")"
  | json j => "Json(" ++ j.logged ++ ")"

def loggedList (values : List Value) : String := commaList (values.map logged)

end Value

end SqlTree
