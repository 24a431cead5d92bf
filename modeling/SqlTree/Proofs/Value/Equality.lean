import Mathlib.Tactic.Tauto
import SqlTree.Value

namespace SqlTree

namespace Double

/-- One zero in place of both. -/
def settled (x : Double) : Double := if x.isZero then zero else x

theorem equal_iff (x y : Double) :
    x.equal y = true ↔ x.isNaN = false ∧ y.isNaN = false ∧ x.settled = y.settled := by
  have zeros : zero.isZero = true := by decide
  have same : (x.bits = y.bits ∨ x.isZero = true ∧ y.isZero = true) ↔ x.settled = y.settled := by
    have bits : x.bits = y.bits ↔ x = y := by
      cases x
      cases y
      simp
    rw [bits]
    unfold settled
    constructor
    · rintro (rfl | ⟨left, right⟩)
      · rfl
      · rw [if_pos left, if_pos right]
    · intro joined
      by_cases left : x.isZero = true <;> by_cases right : y.isZero = true
      · exact .inr ⟨left, right⟩
      · rw [if_pos left, if_neg right] at joined
        exact absurd (joined ▸ zeros) right
      · rw [if_neg left, if_pos right] at joined
        exact absurd (joined ▸ zeros) left
      · rw [if_neg left, if_neg right] at joined
        exact .inl joined
  simp only [equal, Bool.and_eq_true, Bool.or_eq_true, Bool.not_eq_true', beq_iff_eq, and_assoc,
    same]

end Double

namespace JsonNumber

def settled : JsonNumber → JsonNumber
  | double x => double x.settled
  | natural n => natural n
  | negative n => negative n

def holdsNaN : JsonNumber → Bool
  | double x => x.isNaN
  | natural _ | negative _ => false

theorem equal_iff (m n : JsonNumber) :
    m.equal n = true ↔ m.holdsNaN = false ∧ n.holdsNaN = false ∧ m.settled = n.settled := by
  cases m <;> cases n <;> simp [equal, holdsNaN, settled, Double.equal_iff]

end JsonNumber

namespace Json

mutual

def settled : Json → Json
  | null => null
  | bool b => bool b
  | number n => number n.settled
  | string s => string s
  | array items => array (settledItems items)
  | object members => object (settledMembers members)

def settledItems : List Json → List Json
  | [] => []
  | x :: rest => x.settled :: settledItems rest

def settledMembers : List (String × Json) → List (String × Json)
  | [] => []
  | (key, x) :: rest => (key, x.settled) :: settledMembers rest

end

mutual

def holdsNaN : Json → Bool
  | null | bool _ | string _ => false
  | number n => n.holdsNaN
  | array items => anyNaN items
  | object members => anyMemberNaN members

def anyNaN : List Json → Bool
  | [] => false
  | x :: rest => x.holdsNaN || anyNaN rest

def anyMemberNaN : List (String × Json) → Bool
  | [] => false
  | (_, x) :: rest => x.holdsNaN || anyMemberNaN rest

end

mutual

theorem equal_iff : ∀ x y : Json,
    x.equal y = true ↔ x.holdsNaN = false ∧ y.holdsNaN = false ∧ x.settled = y.settled
  | null, y => by cases y <;> simp [equal, holdsNaN, settled]
  | bool b, y => by cases y <;> simp [equal, holdsNaN, settled]
  | number n, y => by cases y <;> simp [equal, holdsNaN, settled, JsonNumber.equal_iff]
  | string s, y => by cases y <;> simp [equal, holdsNaN, settled]
  | array items, y => by
      cases y with
      | array others => simp [equal, holdsNaN, settled, equalItems_iff items others]
      | _ => simp [equal, settled]
  | object members, y => by
      cases y with
      | object others => simp [equal, holdsNaN, settled, equalMembers_iff members others]
      | _ => simp [equal, settled]

theorem equalItems_iff : ∀ xs ys : List Json,
    equalItems xs ys = true ↔
      anyNaN xs = false ∧ anyNaN ys = false ∧ settledItems xs = settledItems ys
  | [], ys => by cases ys <;> simp [equalItems, anyNaN, settledItems]
  | x :: xs, [] => by simp [equalItems, settledItems]
  | x :: xs, y :: ys => by
      simp only [equalItems, anyNaN, settledItems, Bool.and_eq_true, Bool.or_eq_false_iff,
        List.cons.injEq, equal_iff x y, equalItems_iff xs ys]
      tauto

theorem equalMembers_iff : ∀ ms ns : List (String × Json),
    equalMembers ms ns = true ↔
      anyMemberNaN ms = false ∧ anyMemberNaN ns = false ∧ settledMembers ms = settledMembers ns
  | [], ns => by cases ns <;> simp [equalMembers, anyMemberNaN, settledMembers]
  | (k, x) :: ms, [] => by simp [equalMembers, settledMembers]
  | (k, x) :: ms, (l, y) :: ns => by
      simp only [equalMembers, anyMemberNaN, settledMembers, Bool.and_eq_true, beq_iff_eq,
        Bool.or_eq_false_iff, List.cons.injEq, Prod.mk.injEq, equal_iff x y,
        equalMembers_iff ms ns]
      tauto

end

end Json

namespace Value

def settled : Value → Value
  | float x => float x.settled
  | json j => json j.settled
  | v => v

def holdsNaN : Value → Bool
  | float x => x.isNaN
  | json j => j.holdsNaN
  | _ => false

theorem equal_iff (v w : Value) :
    v.equal w = true ↔ v.holdsNaN = false ∧ w.holdsNaN = false ∧ v.settled = w.settled := by
  cases v <;> cases w <;> simp [equal, holdsNaN, settled, Double.equal_iff, Json.equal_iff]

end Value

end SqlTree
