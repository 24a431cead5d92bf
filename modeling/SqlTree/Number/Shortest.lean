import SqlTree.Number.Double
import SqlTree.Text.Integer

namespace SqlTree

structure Decimal where
  digits : Nat
  exponent : Int
  deriving DecidableEq, Repr

namespace Decimal

def ratio (d : Decimal) : Nat × Nat :=
  if d.exponent < 0 then (d.digits, Nat.pow 10 d.exponent.natAbs)
  else (d.digits * Nat.pow 10 d.exponent.natAbs, 1)

/-- Drops trailing zeros, at most `fuel` of them. -/
def trimmed : Nat → Decimal → Decimal
  | 0, d => d
  | fuel + 1, d =>
      if d.digits % 10 = 0 ∧ d.digits ≠ 0 then trimmed fuel ⟨d.digits / 10, d.exponent + 1⟩ else d

def text (d : Decimal) : List Char := Nat.toDigits 10 d.digits

def leading (d : Decimal) : Int := d.exponent + d.text.length - 1

end Decimal

/-- Which of two equally near decimals of the same length is taken. -/
inductive DecimalTie where
  | even
  | up
  deriving DecidableEq, Repr

namespace Shortest

/-- A finite number `m * 2 ^ q` between the ends of the reals that round to it, all in quarters of
the last place: the lower gap is half as wide at a power of two. -/
structure Interval where
  low : Nat
  value : Nat
  high : Nat
  closed : Bool
  place : Int

def interval (m : Nat) (q : Int) : Interval :=
  let narrow := m = binary64.hidden ∧ binary64.lowestPlace < q
  { low := 4 * m - (if narrow then 1 else 2)
    value := 4 * m
    high := 4 * m + 2
    closed := m % 2 = 0
    place := q - 2 }

def decimalPoint (num den : Nat) : Int :=
  ((Nat.toDigits 10 (num * Nat.pow 10 400 / den)).length : Int) - 400

/-- The nearest point of the grid of `10 ^ grid` inside the interval, if there is one. -/
def onGrid (tie : DecimalTie) (i : Interval) (grid : Int) : Option Decimal :=
  let (gridNum, gridDen) := (Decimal.mk 1 grid).ratio
  let (unitNum, unitDen) := scaledRatio 1 i.place
  let step := gridNum * unitDen
  let unit := unitNum * gridDen
  let inside (c : Nat) : Bool :=
    if i.closed then i.low * unit ≤ c * step && c * step ≤ i.high * unit
    else i.low * unit < c * step && c * step < i.high * unit
  let below := i.value * unit / step
  let above := below + 1
  let excess := i.value * unit - below * step
  let missing := above * step - i.value * unit
  match inside below, inside above with
  | false, false => none
  | true, false => some ⟨below, grid⟩
  | false, true => some ⟨above, grid⟩
  | true, true =>
      if excess < missing then some ⟨below, grid⟩
      else if missing < excess then some ⟨above, grid⟩
      else match tie with
        | .up => some ⟨above, grid⟩
        | .even => some ⟨below + below % 2, grid⟩

/-- Seventeen digits always suffice. -/
def decimal (tie : DecimalTie) (m : Nat) (q : Int) : Decimal :=
  let i := interval m q
  let (num, den) := scaledRatio m q
  let point := decimalPoint num den
  let found := (List.range 17).findSome? fun n => onGrid tie i (point - (n + 1 : Nat))
  (found.getD ⟨0, 0⟩).trimmed 20

end Shortest

structure FloatStyle where
  /-- the smallest power of ten of a first digit that is written positionally -/
  lowest : Int
  /-- the first power of ten that is not -/
  limit : Int
  /-- whether a positive exponent has a sign -/
  plus : Bool
  tie : DecimalTie

namespace FloatStyle

/-- A whole number gets a `.0`. -/
def positional (d : Decimal) : List Char :=
  let text := d.text
  if 0 ≤ d.exponent then text ++ List.replicate d.exponent.natAbs '0' ++ ['.', '0']
  else if 0 ≤ d.leading then
    let whole := text.length - d.exponent.natAbs
    text.take whole ++ '.' :: text.drop whole
  else ['0', '.'] ++ List.replicate (d.exponent.natAbs - text.length) '0' ++ text

def exponential (style : FloatStyle) (d : Decimal) : List Char :=
  let mantissa := match d.text with
    | [] => []
    | [digit] => [digit]
    | digit :: rest => digit :: '.' :: rest
  let sign := if style.plus && 0 ≤ d.leading then ['+'] else []
  mantissa ++ 'e' :: sign ++ Text.integerChars d.leading

def finite (style : FloatStyle) (m : Nat) (q : Int) : List Char :=
  if m = 0 then ['0', '.', '0']
  else
    let d := Shortest.decimal style.tie m q
    if style.lowest ≤ d.leading && d.leading < style.limit then positional d
    else style.exponential d

def write (style : FloatStyle) (x : Double) : String :=
  match x.magnitude with
  | .nan _ => "NaN"
  | .infinite => if x.isNegative then "-inf" else "inf"
  | .finite m q =>
      String.ofList (if x.isNegative then '-' :: style.finite m q else style.finite m q)

end FloatStyle

end SqlTree
