import SqlTree.Renderer

namespace SqlTree

inductive Mark where
  | text (s : String)
  | anonymous
  | numbered (n : Nat)
  deriving DecidableEq, Repr

namespace Mark

def written : Mark → String
  | text s => s
  | anonymous => "?"
  | numbered n => "$" ++ n.repr

def number? : Mark → Option Nat
  | numbered n => some n
  | text _ | anonymous => none

def shift (k : Nat) : Mark → Mark
  | numbered n => numbered (k + n)
  | text s => text s
  | anonymous => anonymous

def sql : List Mark → String
  | [] => ""
  | m :: rest => m.written ++ sql rest

def numbers (marks : List Mark) : List Nat := marks.filterMap number?

section Numbers

variable (rest : List Mark)

@[simp] theorem numbers_nil : numbers [] = [] := rfl

@[simp] theorem numbers_text (s : String) : numbers (.text s :: rest) = numbers rest := rfl

@[simp] theorem numbers_anonymous : numbers (.anonymous :: rest) = numbers rest := rfl

@[simp] theorem numbers_numbered (n : Nat) : numbers (.numbered n :: rest) = n :: numbers rest := rfl

end Numbers

end Mark

/-- A placeholder in a tree: its name, if it shares it, and its value. -/
abbrev Slot := Option String × Value

def Piece.slot? : Piece → Option Slot
  | .text _ => none
  | .value v => some (none, v)
  | .shared name v => some (some name, v)

def Piece.slots (pieces : List Piece) : List Slot := pieces.filterMap Piece.slot?

section Slots

variable (rest : List Piece)

@[simp] theorem Piece.slots_nil : Piece.slots [] = [] := rfl

@[simp] theorem Piece.slots_text (s : String) :
    Piece.slots (.text s :: rest) = Piece.slots rest := rfl

@[simp] theorem Piece.slots_value (v : Value) :
    Piece.slots (.value v :: rest) = (none, v) :: Piece.slots rest := rfl

@[simp] theorem Piece.slots_shared (name : String) (v : Value) :
    Piece.slots (.shared name v :: rest) = (some name, v) :: Piece.slots rest := rfl

end Slots

namespace Renderer

def numberOf (r : Renderer) (name : String) : Nat :=
  (r.numbers.lookup name).getD (r.args.length + 1)

def mark (r : Renderer) : Piece → Mark
  | .text s => .text s
  | .value _ => if r.dialect.numbered then .numbered (r.args.length + 1) else .anonymous
  | .shared name _ => if r.dialect.numbered then .numbered (r.numberOf name) else .anonymous

def marks (r : Renderer) : List Piece → List Mark
  | [] => []
  | p :: rest => r.mark p :: (r.put p).marks rest

def bound (r : Renderer) : Piece → List Value
  | .text _ => []
  | .value v => [v]
  | .shared name v => if r.dialect.numbered && (r.numbers.lookup name).isSome then [] else [v]

def named (r : Renderer) : Piece → List (String × Nat)
  | .text _ | .value _ => []
  | .shared name _ =>
      if r.dialect.numbered && (r.numbers.lookup name).isNone then [(name, r.args.length + 1)]
      else []

theorem bind_eq (r : Renderer) (v : Value) :
    r.bind v = ⟨r.dialect,
      r.sql ++ if r.dialect.numbered then "$" ++ (r.args.length + 1).repr else "?",
      r.args ++ [v], r.numbers⟩ := by
  unfold bind
  split <;> simp [push, pushNumber]

theorem put_eq (r : Renderer) (p : Piece) :
    r.put p = ⟨r.dialect, r.sql ++ (r.mark p).written, r.args ++ r.bound p,
      r.numbers ++ r.named p⟩ := by
  cases p with
  | text s => simp [put, push, mark, bound, named, Mark.written]
  | value v =>
      simp only [put, bind_eq, mark, bound, named, List.append_nil]
      split <;> rfl
  | shared name v =>
      cases numbered : r.dialect.numbered with
      | false => simp [put, bindShared, bind_eq, mark, bound, named, numbered, Mark.written]
      | true =>
          cases known : r.numbers.lookup name with
          | none =>
              simp [put, bindShared, bind_eq, mark, bound, named, numberOf, numbered, known,
                Mark.written]
          | some n =>
              simp [put, bindShared, pushNumber, push, mark, bound, named, numberOf, numbered,
                known, Mark.written]

@[simp] theorem put_args (r : Renderer) (p : Piece) : (r.put p).args = r.args ++ r.bound p := by
  rw [put_eq]

@[simp] theorem put_numbers (r : Renderer) (p : Piece) :
    (r.put p).numbers = r.numbers ++ r.named p := by
  rw [put_eq]

@[simp] theorem writePieces_cons (r : Renderer) (p : Piece) (rest : List Piece) :
    r.writePieces (p :: rest) = (r.put p).writePieces rest := rfl

theorem writePieces_sql (r : Renderer) (pieces : List Piece) :
    (r.writePieces pieces).sql = r.sql ++ Mark.sql (r.marks pieces) := by
  induction pieces generalizing r with
  | nil => simp [writePieces, marks, Mark.sql]
  | cons p rest ih =>
      rw [writePieces_cons, ih, marks, Mark.sql, ← String.append_assoc, put_eq]

theorem args_prefix (r : Renderer) (pieces : List Piece) :
    r.args <+: (r.writePieces pieces).args := by
  induction pieces generalizing r with
  | nil => exact List.prefix_rfl
  | cons p rest ih =>
      have first : r.args <+: (r.put p).args := by
        rw [put_args]
        exact List.prefix_append _ _
      exact first.trans (ih (r.put p))

theorem arg_kept {r : Renderer} {i : Nat} {v : Value} (found : r.args[i]? = some v)
    (pieces : List Piece) : (r.writePieces pieces).args[i]? = some v := by
  obtain ⟨added, args⟩ := r.args_prefix pieces
  rw [← args, List.getElem?_append_left (List.getElem?_eq_some_iff.mp found).1, found]

theorem positional_args (r : Renderer) (positional : r.dialect.numbered = false)
    (pieces : List Piece) :
    (r.writePieces pieces).args = r.args ++ (Piece.slots pieces).map Prod.snd := by
  induction pieces generalizing r with
  | nil => simp [writePieces]
  | cons p rest ih =>
      rw [writePieces_cons, ih (r.put p) (by rw [put_dialect, positional]), put_args]
      cases p <;> simp [bound, positional]

theorem positional_mark (r : Renderer) (positional : r.dialect.numbered = false) (p : Piece) :
    r.mark p = match p with
      | .text s => .text s
      | .value _ | .shared .. => .anonymous := by
  cases p <;> simp [mark, positional]

theorem count_anonymous (r : Renderer) (positional : r.dialect.numbered = false)
    (pieces : List Piece) :
    (r.marks pieces).count .anonymous = (Piece.slots pieces).length := by
  induction pieces generalizing r with
  | nil => rfl
  | cons p rest ih =>
      have others := ih (r.put p) (by rw [put_dialect, positional])
      rw [marks, r.positional_mark positional, List.count_cons, others]
      cases p <;> simp

end Renderer

end SqlTree
