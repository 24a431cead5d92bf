import SqlTree.Number.Double

/-!
JSON values. The members of an object are in order of their keys, each key once.
-/

namespace SqlTree

/-- Integers that fit 64 bits stay integers; every other number is a finite double. -/
inductive JsonNumber where
  | natural (n : UInt64)
  | negative (n : Int64)
  | double (x : Double)
  deriving DecidableEq, Repr

inductive Json where
  | null
  | bool (b : Bool)
  | number (n : JsonNumber)
  | string (s : String)
  | array (items : List Json)
  | object (members : List (String × Json))

namespace JsonNumber

/-- An integer never equals a double. -/
def equal : JsonNumber → JsonNumber → Bool
  | natural m, natural n => m == n
  | negative m, negative n => m == n
  | double x, double y => x.equal y
  | _, _ => false

def toInt64? : JsonNumber → Option Int64
  | natural n => if n.toNat < Nat.pow 2 63 then some (Int64.ofNat n.toNat) else none
  | negative n => some n
  | double _ => none

end JsonNumber

namespace Json

mutual

def equal : Json → Json → Bool
  | null, null => true
  | bool a, bool b => a == b
  | number m, number n => m.equal n
  | string s, string t => s == t
  | array xs, array ys => equalItems xs ys
  | object ms, object ns => equalMembers ms ns
  | _, _ => false

def equalItems : List Json → List Json → Bool
  | [], [] => true
  | x :: xs, y :: ys => x.equal y && equalItems xs ys
  | _, _ => false

def equalMembers : List (String × Json) → List (String × Json) → Bool
  | [], [] => true
  | (k, x) :: ms, (l, y) :: ns => k == l && x.equal y && equalMembers ms ns
  | _, _ => false

end

instance : BEq Json := ⟨equal⟩

/-- Puts a member in its place; a member of that key is replaced. -/
def insertMember (key : String) (value : Json) : List (String × Json) → List (String × Json)
  | [] => [(key, value)]
  | (k, v) :: rest =>
      if key < k then (key, value) :: (k, v) :: rest
      else if key = k then (key, value) :: rest
      else (k, v) :: insertMember key value rest

/-- The last of several members with one key wins. -/
def ofMembers (members : List (String × Json)) : Json :=
  object (members.foldl (fun sorted (key, value) => insertMember key value sorted) [])

def toInt64? : Json → Option Int64
  | number n => n.toInt64?
  | _ => none

def toString? : Json → Option String
  | string s => some s
  | _ => none

def toStrings? : Json → Option (List String)
  | array items => items.mapM toString?
  | _ => none

def toInts? : Json → Option (List (String × Int64))
  | object members => members.mapM fun (key, value) => value.toInt64?.map (key, ·)
  | _ => none

end Json

end SqlTree
