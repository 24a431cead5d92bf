import Mathlib.Data.List.Basic
import SqlTree.Proofs.Renderer.Written

/-!
Reading conditions back from text by the precedence of SQL: parentheses, then NOT, then AND, then
OR. The texts of the atoms are given; each of them is read as one atom where it stands. Text that is
spelled with signs and atoms is split into just these, provided that no atom looks like signs.
-/

namespace SqlTree

/-- A condition over atoms, which are numbered in the order in which they are written. -/
inductive Condition where
  | atom (n : Nat)
  | not (c : Condition)
  | both (a b : Condition)
  | either (a b : Condition)
  deriving DecidableEq, Repr

namespace Condition

def value (truth : Nat → Bool) : Condition → Bool
  | atom n => truth n
  | not c => !c.value truth
  | both a b => a.value truth && b.value truth
  | either a b => a.value truth || b.value truth

inductive Sign where
  | opening
  | closing
  | not
  | and
  | or
  deriving DecidableEq, Repr

namespace Sign

def text : Sign → List Char
  | opening => ['(']
  | closing => [')']
  | not => ['N', 'O', 'T', ' ']
  | and => [' ', 'A', 'N', 'D', ' ']
  | or => [' ', 'O', 'R', ' ']

def read? (text : List Char) : Option (Sign × List Char) :=
  [opening, closing, not, and, or].findSome? fun s => (s.text.isPrefixOf? text).map (s, ·)

def holds (c : Char) : Bool := c ∈ ['(', ')', ' ', 'N', 'O', 'T', 'A', 'D', 'R']

theorem all_holds (s : Sign) : s.text.all holds = true := by cases s <;> decide

theorem read?_text (s : Sign) (rest : List Char) : read? (s.text ++ rest) = some (s, rest) := by
  cases s <;> simp [read?, text, List.isPrefixOf?]

theorem length_lt_of_read? {s : Sign} {text rest : List Char}
    (found : read? text = some (s, rest)) : rest.length < text.length := by
  obtain ⟨t, -, split⟩ := List.exists_of_findSome?_eq_some found
  obtain ⟨tail, cut, same⟩ := Option.map_eq_some_iff.mp split
  obtain ⟨rfl, rfl⟩ := Prod.mk.inj same
  rw [← List.isPrefixOf?_eq_some_iff_append_eq.mp cut, List.length_append]
  have filled : 0 < t.text.length := by cases t <;> decide
  omega

end Sign

inductive Token where
  | sign (s : Sign)
  | atom (n : Nat)
  deriving DecidableEq, Repr

abbrev Atoms := List (List Char × Nat)

namespace Token

def atom? : Atoms → List Char → Option (Token × Atoms × List Char)
  | [], _ => none
  | (text, n) :: more, input => (text.isPrefixOf? input).map fun rest => (atom n, more, rest)

def take? (atoms : Atoms) (input : List Char) : Option (Token × Atoms × List Char) :=
  (atom? atoms input).or ((Sign.read? input).map fun (s, rest) => (sign s, atoms, rest))

theorem take?_shorter {atoms more : Atoms} {input rest : List Char} {t : Token}
    (found : take? atoms input = some (t, more, rest)) :
    more.length + rest.length < atoms.length + input.length := by
  rcases Option.or_eq_some_iff.mp found with own | ⟨-, other⟩
  · cases atoms with
    | nil => exact nomatch own
    | cons first others =>
        obtain ⟨tail, cut, same⟩ := Option.map_eq_some_iff.mp own
        obtain ⟨-, rfl, rfl⟩ : _ ∧ others = more ∧ tail = rest := by simpa using same
        rw [← List.isPrefixOf?_eq_some_iff_append_eq.mp cut, List.length_append, List.length_cons]
        omega
  · obtain ⟨⟨s, tail⟩, read, same⟩ := Option.map_eq_some_iff.mp other
    obtain ⟨-, rfl, rfl⟩ : _ ∧ atoms = more ∧ tail = rest := by simpa using same
    have shorter := Sign.length_lt_of_read? read
    omega

end Token

def tokens? (atoms : Atoms) (input : List Char) : Option (List Token) :=
  if input.isEmpty then some []
  else match _found : Token.take? atoms input with
    | none => none
    | some (t, more, rest) => (tokens? more rest).map (t :: ·)
termination_by atoms.length + input.length
decreasing_by exact Token.take?_shorter _found

theorem tokens?_nil (atoms : Atoms) : tokens? atoms [] = some [] := by
  rw [tokens?]
  rfl

theorem tokens?_take {atoms more : Atoms} {input rest : List Char} {t : Token}
    (found : Token.take? atoms input = some (t, more, rest)) (filled : input ≠ []) :
    tokens? atoms input = (tokens? more rest).map (t :: ·) := by
  rw [tokens?, if_neg (by simpa using filled)]
  split
  · next none => rw [found] at none; exact nomatch none
  · next same =>
    rw [found] at same
    obtain ⟨rfl, rfl, rfl⟩ : _ = _ ∧ _ = _ ∧ _ = _ := by simpa using same
    rfl

/-! ### Precedence -/

/-- What has been read at one depth of parentheses, before the operand that is read now: what stands
before the last OR, and what stands between it and the last AND. -/
structure Level where
  disjunct : Option Condition
  conjunct : Option Condition

namespace Level

def start : Level := ⟨none, none⟩

def conjoined (l : Level) (c : Condition) : Condition := l.conjunct.elim c (both · c)

def closed (l : Level) (c : Condition) : Condition :=
  l.disjunct.elim (l.conjoined c) (either · (l.conjoined c))

end Level

def negated : Nat → Condition → Condition
  | 0, c => c
  | n + 1, c => negated n (not c)

/-- Either an operand is still to come, behind so many NOTs, or it has just been read. The levels
further out wait with the NOTs before their parenthesis. -/
inductive Reader where
  | before (nots : Nat) (level : Level) (outer : List (Nat × Level))
  | behind (level : Level) (operand : Condition) (outer : List (Nat × Level))

namespace Reader

def step : Reader → Token → Option Reader
  | before nots l outer, .sign .not => some (before (nots + 1) l outer)
  | before nots l outer, .sign .opening => some (before 0 .start ((nots, l) :: outer))
  | before nots l outer, .atom n => some (behind l (negated nots (atom n)) outer)
  | behind l c outer, .sign .and => some (before 0 ⟨l.disjunct, some (l.conjoined c)⟩ outer)
  | behind l c outer, .sign .or => some (before 0 ⟨some (l.closed c), none⟩ outer)
  | behind l c ((nots, next) :: outer), .sign .closing =>
      some (behind next (negated nots (l.closed c)) outer)
  | _, _ => none

def run (r : Reader) (tokens : List Token) : Option Reader := tokens.foldlM step r

def result? : Reader → Option Condition
  | behind l c [] => some (l.closed c)
  | _ => none

theorem run_append (r : Reader) (first second : List Token) :
    r.run (first ++ second) = (r.run first).bind (run · second) := List.foldlM_append

end Reader

def ofTokens? (tokens : List Token) : Option Condition :=
  ((Reader.before 0 .start []).run tokens).bind Reader.result?

def read? (atoms : List (List Char)) (text : List Char) : Option Condition :=
  (tokens? atoms.zipIdx text).bind ofTokens?

example : read? [['a'], ['b'], ['c']] "a OR NOT b AND c".toList =
    some (either (atom 0) (both (not (atom 1)) (atom 2))) := by cbv

end Condition

end SqlTree
