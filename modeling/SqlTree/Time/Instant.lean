import SqlTree.Time.Calendar

/-!
Points in time, counted in seconds and nanoseconds from 1970-01-01 in UTC. Nanoseconds from 10^9 on
lie in the leap second that follows.
-/

namespace SqlTree

structure Instant where
  secs : Int
  nanos : Nat
  deriving DecidableEq, Repr

namespace Instant

def epoch : Instant := ⟨0, 0⟩

/-- The first second of the year -262143. -/
def earliest : Int := -8334601228800

/-- The last second of the year 262142. -/
def latest : Int := 8210266876799

def ofSeconds? (secs : Int) : Option Instant :=
  if earliest ≤ secs ∧ secs ≤ latest then some ⟨secs, 0⟩ else none

/-- None if the date does not exist or lies outside the supported years. -/
def ofCivil? (date : Date) (clock : Clock) : Option Instant :=
  let leap := clock.second = 60
  let second := if leap then 59 else clock.second
  let nanos := if leap then clock.nanos + 1000000000 else clock.nanos
  let secs := date.dayNumber * 86400 + (clock.hour * 3600 + clock.minute * 60 + second : Nat)
  if date.IsValid ∧ earliest ≤ secs ∧ secs ≤ latest then some ⟨secs, nanos⟩ else none

def shift (i : Instant) (secs : Int) : Instant := { i with secs := i.secs + secs }

def date (i : Instant) : Date := Date.ofDayNumber (i.secs.fdiv 86400)

def clock (i : Instant) : Clock :=
  let second := (i.secs.fmod 86400).toNat
  let leap := 1000000000 ≤ i.nanos
  { hour := second / 3600
    minute := second / 60 % 60
    second := if leap then second % 60 + 1 else second % 60
    nanos := if leap then i.nanos - 1000000000 else i.nanos }

def padded (width n : Nat) : List Char :=
  let digits := Nat.toDigits 10 n
  List.replicate (width - digits.length) '0' ++ digits

/-- Four digits, or a sign and at least four digits outside the years 0 to 9999. -/
def yearText (year : Int) : List Char :=
  if 0 ≤ year ∧ year ≤ 9999 then padded 4 year.natAbs
  else (if year < 0 then '-' else '+') :: padded 4 year.natAbs

/-- Three, six or nine digits, whichever is the shortest exact form; none for a whole second. -/
def fractionText (nanos : Nat) : List Char :=
  if nanos = 0 then []
  else if nanos % 1000000 = 0 then '.' :: padded 3 (nanos / 1000000)
  else if nanos % 1000 = 0 then '.' :: padded 6 (nanos / 1000)
  else '.' :: padded 9 nanos

/-- For instance `2024-05-01T10:30:00.250Z`. -/
def text (i : Instant) : String :=
  let date := i.date
  let clock := i.clock
  String.ofList (yearText date.year ++ '-' :: padded 2 date.month ++ '-' :: padded 2 date.day ++
    'T' :: padded 2 clock.hour ++ ':' :: padded 2 clock.minute ++ ':' :: padded 2 clock.second ++
    fractionText clock.nanos ++ ['Z'])

end Instant

end SqlTree
