import SqlTree.Text.Blank
import SqlTree.Time.Instant

/-!
Reading points in time: RFC 3339 text, and the form `year-month-day hour:minute:second[.fraction]`
taken as UTC, where blanks may stand before each number.
-/

namespace SqlTree

inductive StampFault where
  | tooShort
  | invalid
  | outOfRange
  | tooLong
  deriving DecidableEq, Repr

def StampFault.message : StampFault → String
  | tooShort => "premature end of input"
  | invalid => "input contains invalid characters"
  | outOfRange => "input is out of range"
  | tooLong => "trailing input"

namespace Stamp

/-- A reader takes its part from the front of the text and leaves the rest. -/
abbrev Reader (α : Type) := StateT (List Char) (Except StampFault) α

def digitsValue (digits : List Char) : Nat :=
  digits.foldl (fun n c => 10 * n + (c.toNat - 48)) 0

def number (least : Nat) (most : Option Nat) : Reader Nat := do
  let text ← get
  let run := text.takeWhile Char.isDigit
  let digits := match most with
    | some most => run.take most
    | none => run
  if digits.length < least then
    throw (if digits.length = text.length then .tooShort else .invalid)
  set (text.drop digits.length)
  pure (digitsValue digits)

def literal (c : Char) : Reader Unit := do
  match ← get with
  | [] => throw .tooShort
  | head :: rest => if head = c then set rest else throw .invalid

def skipBlanks : Reader Unit := modify Text.trimStart

def within (low high n : Nat) : Reader Nat :=
  if low ≤ n ∧ n ≤ high then pure n else throw .outOfRange

/-- Nanoseconds from the digits behind a point; digits beyond the ninth are dropped. -/
def fraction : Reader Nat := do
  match ← get with
  | '.' :: rest =>
      set rest
      let before := rest.length
      let n ← number 1 (some 9)
      let used := before - (← get).length
      modify (List.dropWhile Char.isDigit)
      pure (n * Nat.pow 10 (9 - used))
  | _ => pure 0

/-- A year with a sign may have any number of digits, one without at most four. -/
def signedYear : Reader Int := do
  let bounded (year : Int) : Reader Int :=
    if -2147483648 ≤ year ∧ year ≤ 2147483647 then pure year else throw .outOfRange
  match ← get with
  | '-' :: rest => set rest; bounded (-(← number 1 none : Nat))
  | '+' :: rest => set rest; bounded (← number 1 none : Nat)
  | _ => pure (← number 1 (some 4) : Nat)

def spacedNumber (low high : Nat) : Reader Nat := do
  skipBlanks
  within low high (← number 1 (some 2))

def plainStamp : Reader (Date × Clock) := do
  skipBlanks
  let year ← signedYear
  literal '-'
  let month ← spacedNumber 1 12
  literal '-'
  let day ← spacedNumber 1 31
  let hour ← spacedNumber 0 23
  literal ':'
  let minute ← spacedNumber 0 59
  literal ':'
  let second ← spacedNumber 0 60
  let nanos ← fraction
  pure (⟨year, month, day⟩, ⟨hour, minute, second, nanos⟩)

/-- The whole text has to be used up before the date is looked at. -/
def readPlain (text : String) : Except StampFault Instant := do
  let ((date, clock), rest) ← plainStamp.run text.toList
  if rest ≠ [] then throw .tooLong
  match Instant.ofCivil? date clock with
  | some i => pure i
  | none => throw .outOfRange

def fixedNumber (width low high : Nat) : Reader Nat := do
  within low high (← number width (some width))

/-- Seconds east of UTC; the minus may also be U+2212. -/
def offset : Reader Int := do
  let distance : Reader Int := do
    let hours ← number 2 (some 2)
    literal ':'
    let minutes ← fixedNumber 2 0 59
    if 23 < hours then throw .outOfRange
    pure (hours * 3600 + minutes * 60 : Nat)
  match ← get with
  | [] => throw .tooShort
  | c :: rest =>
      set rest
      if c = 'Z' ∨ c = 'z' then pure 0
      else if c = '+' then distance
      else if c = '-' ∨ c = '\u2212' then pure (-(← distance))
      else throw .invalid

def offsetStamp : Reader (Date × Clock × Int) := do
  let year ← number 4 (some 4)
  literal '-'
  let month ← fixedNumber 2 1 12
  literal '-'
  let day ← fixedNumber 2 1 31
  match ← get with
  | [] => throw .tooShort
  | c :: rest => if c = 't' ∨ c = 'T' ∨ c = ' ' then set rest else throw .invalid
  let hour ← fixedNumber 2 0 23
  literal ':'
  let minute ← fixedNumber 2 0 59
  literal ':'
  let second ← fixedNumber 2 0 60
  let nanos ← fraction
  let east ← offset
  pure (⟨year, month, day⟩, ⟨hour, minute, second, nanos⟩, east)

def readRfc3339? (text : String) : Option Instant :=
  match offsetStamp.run text.toList with
  | .ok ((date, clock, east), []) => (Instant.ofCivil? date clock).map (Instant.shift · (-east))
  | _ => none

/-- RFC 3339 first; the fault reported is that of the plain form. -/
def read (text : String) : Except StampFault Instant :=
  match readRfc3339? text with
  | some i => .ok i
  | none => readPlain text

end Stamp

end SqlTree
