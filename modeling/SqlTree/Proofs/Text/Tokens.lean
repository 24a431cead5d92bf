import SqlTree.Ident
import SqlTree.Proofs.Tree.Layout

namespace SqlTree.Text

inductive Token where
  /-- an identifier between quotes, as a whole -/
  | quoted (name : List Char)
  /-- a character outside of quotes -/
  | char (c : Char)
  deriving DecidableEq, Repr

namespace Token

def char? : Token → Option Char
  | quoted _ => none
  | char c => some c

def unquoted (tokens : List Token) : List Char := tokens.filterMap char?

end Token

/-- Where a lexer stands, with the name that it has read so far. -/
inductive Lexer where
  | outside
  | inside (name : List Char)
  /-- behind a quote that ends the name, unless another one follows -/
  | ending (name : List Char)

namespace Lexer

variable (quote : Char)

def next : Lexer → Char → Lexer
  | outside, c => if c = quote then inside [] else outside
  | inside name, c => if c = quote then ending name else inside (name ++ [c])
  | ending name, c => if c = quote then inside (name ++ [quote]) else outside

def completed : Lexer → Char → List Token
  | outside, c => if c = quote then [] else [.char c]
  | inside _, _ => []
  | ending name, c => if c = quote then [] else [.quoted name, .char c]

def run (lexer : Lexer) : List Char → Option (List Token)
  | [] =>
      match lexer with
      | outside => some []
      | inside _ => none
      | ending name => some [.quoted name]
  | c :: rest => ((lexer.next quote c).run rest).map (lexer.completed quote c ++ ·)

/-- Whether a character that is no quote would belong to a name. -/
def within : Lexer → Bool
  | outside | ending _ => false
  | inside _ => true

end Lexer

/-- All quotes end, and the parentheses outside of them open and close in order. -/
def Balanced (quote : Char) (text : List Char) : Prop :=
  ∃ tokens, Lexer.outside.run quote text = some tokens ∧
    openParens 0 (Token.unquoted tokens) = some 0

/-- What stands outside of quotes, and whether the text ends within them. -/
def sides (quote : Char) : Bool → List Char → List Char × Bool
  | within, [] => ([], within)
  | within, c :: rest =>
      if c = quote then sides quote (!within) rest
      else if within then sides quote within rest
      else ((sides quote within rest).1.cons c, (sides quote within rest).2)

section Sides

variable {quote : Char} {text : List Char}

namespace Lexer

theorem within_next (lexer : Lexer) (c : Char) :
    (lexer.next quote c).within = if c = quote then !lexer.within else lexer.within := by
  cases lexer <;> simp only [next] <;> split <;> rfl

theorem unquoted_completed (lexer : Lexer) (c : Char) :
    Token.unquoted (lexer.completed quote c) =
      if c = quote then [] else if lexer.within then [] else [c] := by
  cases lexer <;> simp only [completed] <;> split <;> rfl

theorem run_of_sides (lexer : Lexer) (ends : (sides quote lexer.within text).2 = false) :
    ∃ tokens, lexer.run quote text = some tokens ∧
      Token.unquoted tokens = (sides quote lexer.within text).1 := by
  induction text generalizing lexer with
  | nil =>
      cases lexer with
      | outside => exact ⟨[], rfl, rfl⟩
      | inside name => exact nomatch ends
      | ending name => exact ⟨[.quoted name], rfl, rfl⟩
  | cons c rest ih =>
      have later : (sides quote (lexer.next quote c).within rest).2 = false := by
        rw [within_next, ← ends, sides]
        split
        · rfl
        · split <;> rfl
      obtain ⟨tokens, read, outer⟩ := ih _ later
      refine ⟨lexer.completed quote c ++ tokens, by rw [run, read]; rfl, ?_⟩
      have front : Token.unquoted (lexer.completed quote c ++ tokens) =
          Token.unquoted (lexer.completed quote c) ++ Token.unquoted tokens :=
        List.filterMap_append
      rw [front, unquoted_completed, outer, within_next, sides]
      split
      · rfl
      · split <;> rfl

end Lexer

theorem sides_append (within : Bool) (a b : List Char) :
    sides quote within (a ++ b) =
      ((sides quote within a).1 ++ (sides quote (sides quote within a).2 b).1,
        (sides quote (sides quote within a).2 b).2) := by
  induction a generalizing within with
  | nil => rfl
  | cons c rest ih =>
      simp only [List.cons_append, sides, ih]
      split
      · rfl
      · split <;> rfl

theorem sides_of_unquoted (bare : ∀ c ∈ text, c ≠ quote) :
    sides quote false text = (text, false) := by
  induction text with
  | nil => rfl
  | cons c rest ih =>
      obtain ⟨own, others⟩ := List.forall_mem_cons.mp bare
      simp [sides, own, ih others]

theorem sides_doubled (name : List Char) :
    sides quote true (Ident.doubled quote name ++ [quote]) = ([], false) := by
  induction name with
  | nil => simp [Ident.doubled, sides]
  | cons c rest ih =>
      by_cases same : c = quote
      · simpa [Ident.doubled, sides, same] using ih
      · simpa [Ident.doubled, sides, same] using ih

theorem sides_quoted (name : List Char) :
    sides quote false (Ident.quoted quote name) = ([], false) := by
  simp [Ident.quoted, sides, sides_doubled]

end Sides

section Parens

variable {depth opened : Nat} {a : List Char}

theorem openParens_append (depth : Nat) (a b : List Char) :
    openParens depth (a ++ b) = (openParens depth a).bind (openParens · b) := by
  induction a generalizing depth with
  | nil => rfl
  | cons c rest ih =>
      simp only [List.cons_append, openParens]
      split
      · exact ih _
      · split
        · cases depth with
          | zero => rfl
          | succ depth => exact ih _
        · exact ih _

theorem openParens_raise (read : openParens depth a = some opened) (k : Nat) :
    openParens (depth + k) a = some (opened + k) := by
  induction a generalizing depth with
  | nil =>
      obtain rfl := Option.some.inj read
      rfl
  | cons c rest ih =>
      unfold openParens at read ⊢
      split at read
      case isTrue enters =>
        rw [if_pos enters, Nat.add_right_comm]
        exact ih read
      case isFalse stays =>
        rw [if_neg stays]
        split at read
        case isTrue leaves =>
          rw [if_pos leaves]
          cases depth with
          | zero => exact nomatch read
          | succ depth =>
              rw [Nat.add_right_comm]
              exact ih read
        case isFalse other =>
          rw [if_neg other]
          exact ih read

theorem openParens_of_none (bare : ∀ c ∈ a, c ≠ '(' ∧ c ≠ ')') (depth : Nat) :
    openParens depth a = some depth := by
  induction a with
  | nil => rfl
  | cons c rest ih =>
      obtain ⟨own, others⟩ := List.forall_mem_cons.mp bare
      unfold openParens
      rw [if_neg own.1, if_neg own.2]
      exact ih others

end Parens

end SqlTree.Text
