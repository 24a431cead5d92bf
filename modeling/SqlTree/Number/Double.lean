import SqlTree.Number.Binary

namespace SqlTree

structure Double where
  bits : UInt64
  deriving DecidableEq, Repr, Inhabited

namespace Double

def zero : Double := ⟨0⟩

def nan : Double := ⟨0x7ff8000000000000⟩

def magnitude (x : Double) : Magnitude := binary64.magnitude x.bits.toNat

def isNegative (x : Double) : Bool := binary64.isNegative x.bits.toNat

def isNaN (x : Double) : Bool :=
  match x.magnitude with
  | .nan _ => true
  | _ => false

def isZero (x : Double) : Bool := x.bits.toNat % binary64.sign == 0

def equal (x y : Double) : Bool :=
  !x.isNaN && !y.isNaN && (x.bits == y.bits || (x.isZero && y.isZero))

instance : BEq Double := ⟨equal⟩

def ofWord (negative : Bool) (word : Nat) : Double :=
  ⟨UInt64.ofNat (if negative then binary64.sign + word else word)⟩

def ofInt (n : Int) : Double :=
  ofWord (n < 0) (binary64.round n.natAbs 1)

def ofRatio (num den : Nat) : Double :=
  ofWord false (binary64.round num den)

def negate (x : Double) : Double :=
  ofWord (!x.isNegative) (x.bits.toNat % binary64.sign)

/-- The quiet form of a NaN whose payload moves between layouts by dropping or adding low bits. -/
def quietWord (l : BinaryLayout) (payload : Nat) : Nat :=
  l.infinity + (l.hidden / 2 ||| payload)

def toSingle (x : Double) : UInt32 :=
  let word := match x.magnitude with
    | .finite m q =>
        let (num, den) := scaledRatio m q
        binary32.round num den
    | .infinite => binary32.infinity
    | .nan payload => quietWord binary32 (payload / Nat.pow 2 29)
  UInt32.ofNat (if x.isNegative then binary32.sign + word else word)

def ofSingle (word : UInt32) : Double :=
  let magnitude := match binary32.magnitude word.toNat with
    | .finite m q =>
        let (num, den) := scaledRatio m q
        binary64.round num den
    | .infinite => binary64.infinity
    | .nan payload => quietWord binary64 (payload * Nat.pow 2 29)
  ofWord (binary32.isNegative word.toNat) magnitude

/-- The nearest 32-bit word to an integer, rounded once. -/
def singleOfInt (n : Int) : UInt32 :=
  let word := binary32.round n.natAbs 1
  UInt32.ofNat (if n < 0 then binary32.sign + word else word)

/-- The rounded product of two finite magnitudes, none if it is not finite. -/
def mul? (x y : Double) : Option Double :=
  match x.magnitude, y.magnitude with
  | .finite m q, .finite n r =>
      let (num, den) := scaledRatio (m * n) (q + r)
      let word := binary64.round num den
      if word = binary64.infinity then none else some (ofWord false word)
  | _, _ => none

/-- The rounded quotient of two finite magnitudes, none if the divisor is zero. -/
def div? (x y : Double) : Option Double :=
  match x.magnitude, y.magnitude with
  | .finite m q, .finite n r =>
      let (num, den) := scaledRatio m (q - r)
      if n = 0 then none else some (ofWord false (binary64.round num (den * n)))
  | _, _ => none

theorem equal_comm (x y : Double) : x.equal y = y.equal x := by
  simp only [equal]
  rw [Bool.and_comm (!x.isNaN), Bool.and_comm x.isZero, BEq.comm]

theorem equal_of_not_isNaN {x : Double} (number : x.isNaN = false) : x.equal x = true := by
  simp [equal, number]

theorem not_equal_of_isNaN {x : Double} (notNumber : x.isNaN = true) : x.equal x = false := by
  simp [equal, notNumber]

end Double

end SqlTree
