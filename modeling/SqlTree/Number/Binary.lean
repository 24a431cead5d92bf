/-!
Binary floating-point words: their exact values, and rounding of a ratio to the nearest word, a tie
going to the even one. No runtime float is involved.
-/

namespace SqlTree

structure BinaryLayout where
  fractionBits : Nat
  exponentBits : Nat

def binary64 : BinaryLayout := ⟨52, 11⟩

def binary32 : BinaryLayout := ⟨23, 8⟩

/-- What the bits below the sign stand for; `finite m q` is `m * 2 ^ q`. -/
inductive Magnitude where
  | finite (m : Nat) (q : Int)
  | infinite
  | nan (payload : Nat)
  deriving DecidableEq, Repr

def scaledRatio (m : Nat) (q : Int) : Nat × Nat :=
  if q < 0 then (m, Nat.pow 2 q.natAbs) else (m * Nat.pow 2 q.natAbs, 1)

def roundHalfEven (num den : Nat) : Nat :=
  let whole := num / den
  let rest := num % den
  if 2 * rest < den then whole
  else if den < 2 * rest then whole + 1
  else whole + whole % 2

namespace BinaryLayout

variable (l : BinaryLayout)

def bias : Nat := Nat.pow 2 (l.exponentBits - 1) - 1

def hidden : Nat := Nat.pow 2 l.fractionBits

/-- The magnitude word of infinity; every larger one is a NaN. -/
def infinity : Nat := (Nat.pow 2 l.exponentBits - 1) * l.hidden

def sign : Nat := Nat.pow 2 (l.fractionBits + l.exponentBits)

/-- The exponent of the last place of the smallest words. -/
def lowestPlace : Int := 1 - (l.bias : Int) - (l.fractionBits : Int)

def isNegative (word : Nat) : Bool := word / l.sign % 2 == 1

def magnitude (word : Nat) : Magnitude :=
  let bits := word % l.sign
  let exponent := bits / l.hidden
  let fraction := bits % l.hidden
  if bits = l.infinity then .infinite
  else if l.infinity < bits then .nan fraction
  else if exponent = 0 then .finite fraction l.lowestPlace
  else .finite (l.hidden + fraction) (l.lowestPlace + (exponent - 1 : Nat))

/-- The largest `e` with `2 ^ e ≤ num / den`. -/
def floorLog2 (num den : Nat) : Int :=
  let guess : Int := (Nat.log2 num : Int) - Nat.log2 den
  let (n, d) := scaledRatio den guess
  if n ≤ num * d then guess else guess - 1

/-- The magnitude word nearest to `num / den`; beyond the largest finite word it is infinity. -/
def round (num den : Nat) : Nat :=
  if num = 0 then 0
  else
    let place := max (floorLog2 num den - (l.fractionBits : Int)) l.lowestPlace
    let (n, d) := scaledRatio 1 place
    let units := roundHalfEven (num * d) (den * n)
    let word := (place - l.lowestPlace).toNat * l.hidden + units
    min word l.infinity

end BinaryLayout

end SqlTree
