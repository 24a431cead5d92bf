namespace SqlTree

structure Date where
  year : Int
  month : Nat
  day : Nat
  deriving DecidableEq, Repr

namespace Date

def isLeapYear (year : Int) : Bool :=
  year % 4 == 0 && (year % 100 != 0 || year % 400 == 0)

def monthLength (year : Int) (month : Nat) : Nat :=
  if month = 2 then (if isLeapYear year then 29 else 28)
  else if month = 4 ∨ month = 6 ∨ month = 9 ∨ month = 11 then 30
  else 31

def IsValid (d : Date) : Prop :=
  1 ≤ d.month ∧ d.month ≤ 12 ∧ 1 ≤ d.day ∧ d.day ≤ monthLength d.year d.month

instance (d : Date) : Decidable d.IsValid := by
  unfold IsValid; infer_instance

/-- Years are counted from March here, so that a leap day ends its year. -/
def dayNumber (d : Date) : Int :=
  let year := if d.month ≤ 2 then d.year - 1 else d.year
  let month := (d.month + 9) % 12
  let yearDay : Int := ((153 * month + 2) / 5 + d.day : Nat) - 1
  365 * year + year.fdiv 4 - year.fdiv 100 + year.fdiv 400 + yearDay - 719468

def ofDayNumber (number : Int) : Date :=
  let shifted := number + 719468
  let era := shifted.fdiv 146097
  let eraDay := (shifted - era * 146097).toNat
  let eraYear := (eraDay - eraDay / 1460 + eraDay / 36524 - eraDay / 146096) / 365
  let yearDay := eraDay - (365 * eraYear + eraYear / 4 - eraYear / 100)
  let month := (5 * yearDay + 2) / 153
  let day := yearDay - (153 * month + 2) / 5 + 1
  let civilMonth := if month < 10 then month + 3 else month - 9
  let year := (eraYear : Int) + era * 400
  ⟨if civilMonth ≤ 2 then year + 1 else year, civilMonth, day⟩

end Date

/-- A time of day; the second 60 is a leap second. -/
structure Clock where
  hour : Nat
  minute : Nat
  second : Nat
  nanos : Nat
  deriving DecidableEq, Repr

end SqlTree
