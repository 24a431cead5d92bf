namespace SqlTree

structure Span where
  nanos : Nat
  deriving DecidableEq, Repr

namespace Span

def ofMicros (n : Nat) : Span := ⟨n * 1000⟩

def ofMillis (n : Nat) : Span := ⟨n * 1000000⟩

def millis (s : Span) : Nat := s.nanos / 1000000

/-- `rest / 10 ^ width` as a decimal fraction without trailing zeros. -/
def fraction (width rest : Nat) : List Char :=
  let digits := Nat.toDigits 10 rest
  let all := List.replicate (width - digits.length) '0' ++ digits
  let kept := (all.reverse.dropWhile (· == '0')).reverse
  if kept.isEmpty then [] else '.' :: kept

def inUnit (nanos width : Nat) (unit : String) : String :=
  let size := Nat.pow 10 width
  String.ofList (Nat.toDigits 10 (nanos / size) ++
    (if width = 0 then [] else fraction width (nanos % size))) ++ unit

/-- For instance `0ns`, `1.05ms`, `3600s`. -/
def text (s : Span) : String :=
  if 1000000000 ≤ s.nanos then inUnit s.nanos 9 "s"
  else if 1000000 ≤ s.nanos then inUnit s.nanos 6 "ms"
  else if 1000 ≤ s.nanos then inUnit s.nanos 3 "µs"
  else inUnit s.nanos 0 "ns"

end Span

end SqlTree
