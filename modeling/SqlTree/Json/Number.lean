import SqlTree.Json.Basic

/-!
Reading JSON numbers. The digits are collected into 64 bits as long as they fit and the later ones
only move the decimal point; a double is then the collected integer, rounded, times or divided by a
rounded power of ten.
-/

namespace SqlTree.Json

/-- Collects digits while the result fits 64 bits; the rest is left. -/
def collect (significand : Nat) : List Char → Nat × List Char
  | [] => (significand, [])
  | c :: rest =>
      let next := significand * 10 + (c.toNat - 48)
      if next < Nat.pow 2 64 then collect next rest else (significand, c :: rest)

def powerOfTen (n : Nat) : Double := Double.ofRatio (Nat.pow 10 n) 1

/-- Scales by a power of ten, in steps of at most 308 places; none beyond the largest double. -/
def scale (fuel : Nat) (x : Double) (exponent : Int) : Option Double :=
  if exponent.natAbs ≤ 308 then
    if 0 ≤ exponent then x.mul? (powerOfTen exponent.natAbs)
    else x.div? (powerOfTen exponent.natAbs)
  else if x.isZero then some x
  else if 0 ≤ exponent then none
  else match fuel with
    | 0 => some Double.zero
    | fuel + 1 => (x.div? (powerOfTen 308)).bind fun y => scale fuel y (exponent + 308)

/-- The collected digits times a power of ten; three steps bring any of them to zero. -/
def double? (negative : Bool) (significand : Nat) (exponent : Int) : Option JsonNumber :=
  (scale 3 (Double.ofRatio significand 1) exponent).map fun x =>
    .double (if negative then x.negate else x)

def saturated (exponent : Int) : Int :=
  max (-2147483648) (min 2147483647 exponent)

def readExponent (negative : Bool) (significand : Nat) (exponent : Int) (text : List Char) :
    Option (JsonNumber × List Char) := do
  let (up, unsigned) := match text with
    | '+' :: rest => (true, rest)
    | '-' :: rest => (false, rest)
    | _ => (true, text)
  let digits := unsigned.takeWhile Char.isDigit
  let rest := unsigned.dropWhile Char.isDigit
  if digits.isEmpty then none
  else
    let shift : Nat := digits.foldl (fun n c => 10 * n + (c.toNat - 48)) 0
    if 2147483647 < shift then
      if significand ≠ 0 ∧ up then none
      else some (.double (if negative then Double.zero.negate else Double.zero), rest)
    else
      let total := saturated (if up then exponent + shift else exponent - shift)
      let number ← double? negative significand total
      some (number, rest)

def finish (negative : Bool) (significand : Nat) (exponent : Int) (text : List Char) :
    Option (JsonNumber × List Char) :=
  match text with
  | 'e' :: rest | 'E' :: rest => readExponent negative significand exponent rest
  | _ => (double? negative significand exponent).map (·, text)

def readFraction (negative : Bool) (significand : Nat) (exponent : Int) (text : List Char) :
    Option (JsonNumber × List Char) :=
  let digits := text.takeWhile Char.isDigit
  let (longer, dropped) := collect significand digits
  if digits.isEmpty then none
  else finish negative longer (exponent - (digits.length - dropped.length : Nat))
    (text.dropWhile Char.isDigit)

/-- An integer that fits stays one, but minus zero is a double. -/
def integer (negative : Bool) (significand : Nat) : JsonNumber :=
  if negative then
    if 1 ≤ significand ∧ significand ≤ Nat.pow 2 63 then
      .negative (Int64.ofInt (-(significand : Int)))
    else .double (Double.ofInt significand).negate
  else .natural (UInt64.ofNat significand)

def readUnsigned (negative : Bool) (text : List Char) : Option (JsonNumber × List Char) :=
  let digits := text.takeWhile Char.isDigit
  let rest := text.dropWhile Char.isDigit
  let (significand, dropped) := collect 0 digits
  match digits with
  | [] => none
  | '0' :: _ :: _ => none
  | _ =>
      match rest with
      | '.' :: after => readFraction negative significand dropped.length after
      | 'e' :: after | 'E' :: after => readExponent negative significand dropped.length after
      | _ =>
          if dropped.isEmpty then some (integer negative significand, rest)
          else (double? negative significand dropped.length).map (·, rest)

def readNumber : List Char → Option (JsonNumber × List Char)
  | '-' :: rest => readUnsigned true rest
  | text => readUnsigned false text

end SqlTree.Json
