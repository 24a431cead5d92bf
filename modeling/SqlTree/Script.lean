import SqlTree.Fault

/-!
Scripts: what a node writes, as pieces of text and arguments, up to the first fault. A script does
not depend on what was written before it, so scripts simply follow one another; behind a fault
nothing is written any more.
-/

namespace SqlTree

inductive Piece where
  | text (s : String)
  | value (v : Value)
  /-- an argument that shares its placeholder with others of its name -/
  | shared (name : String) (v : Value)

structure Script where
  pieces : List Piece
  fault : Option Fault

namespace Script

def empty : Script := ⟨[], none⟩

def ofPiece (p : Piece) : Script := ⟨[p], none⟩

def text (s : String) : Script := ofPiece (.text s)

def failure (f : Fault) : Script := ⟨[], some f⟩

def append (a b : Script) : Script :=
  match a.fault with
  | some _ => a
  | none => ⟨a.pieces ++ b.pieces, b.fault⟩

instance : Append Script := ⟨append⟩

def concat : List Script → Script
  | [] => empty
  | s :: rest => s ++ concat rest

def separated (separator : String) : List Script → Script
  | [] => empty
  | [s] => s
  | s :: rest => s ++ text separator ++ separated separator rest

def onlyIf (condition : Bool) (s : Script) : Script := if condition then s else empty

def require (condition : Bool) (fault : Fault) : Script :=
  if condition then empty else failure fault

def ident (d : Dialect) (name : String) : Script :=
  match Ident.write d name with
  | .ok written => text written
  | .error refusal => failure (.identifier refusal)

def isOk (s : Script) : Bool := s.fault.isNone

@[simp] theorem empty_append (s : Script) : empty ++ s = s := rfl

@[simp] theorem append_empty (s : Script) : s ++ empty = s := by
  rcases s with ⟨pieces, _ | fault⟩
  · show (⟨pieces ++ [], none⟩ : Script) = _
    rw [List.append_nil]
  · rfl

@[simp] theorem failure_append (f : Fault) (s : Script) : failure f ++ s = failure f := rfl

theorem append_assoc (a b c : Script) : a ++ b ++ c = a ++ (b ++ c) := by
  rcases a with ⟨p, _ | f⟩
  · rcases b with ⟨q, _ | g⟩
    · show (⟨p ++ q ++ c.pieces, c.fault⟩ : Script) = ⟨p ++ (q ++ c.pieces), c.fault⟩
      rw [List.append_assoc]
    · rfl
  · rfl

theorem pieces_append (a b : Script) :
    (a ++ b).pieces = if a.isOk then a.pieces ++ b.pieces else a.pieces := by
  rcases a with ⟨p, _ | f⟩ <;> rfl

theorem fault_append (a b : Script) : (a ++ b).fault = a.fault.or b.fault := by
  rcases a with ⟨p, _ | f⟩ <;> rfl

end Script

end SqlTree
