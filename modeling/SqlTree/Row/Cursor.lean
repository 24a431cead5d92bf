import SqlTree.Build.Setting
import SqlTree.Row.Decoder

/-!
Row cursors: columns are read through fields, never by position. While there are no rows yet the
reads register their fields, which then become the projection.
-/

namespace SqlTree

inductive RowMode where
  | registering (fields : List Field)
  | reading (columns : List Field) (record : Record)

structure Cursor where
  mode : RowMode
  /-- how many values other than NULL have been read -/
  count : Nat
  /-- the column expected next -/
  next : Nat

/-- A reader of one row; a failed read keeps the cursor it left. -/
abbrev RowReader (α : Type) := ExceptT Error (StateM Cursor) α

namespace Cursor

def register : Cursor := ⟨.registering [], 0, 0⟩

def read (columns : List Field) (record : Record) : Cursor := ⟨.reading columns record, 0, 0⟩

def isRegistering (c : Cursor) : Bool :=
  match c.mode with
  | .registering _ => true
  | .reading _ _ => false

def registered (c : Cursor) : List Field :=
  match c.mode with
  | .registering fields => fields
  | .reading _ _ => []

/-- The expected column if it holds the field, else the first that does. -/
def position? (columns : List Field) (next : Nat) (f : Field) : Option Nat :=
  if columns[next]?.any (·.sameExpr f) then some next
  else columns.findIdx? (·.sameExpr f)

def addField (fields : List Field) (f : Field) : List Field :=
  if fields.any (·.sameExpr f) then fields else fields ++ [f]

def get {α : Type} (dec : Decoder α) (f : Field) : RowReader α := fun (c : Cursor) =>
  match c.mode with
  | .registering fields => (.ok dec.placeholder, { c with mode := .registering (addField fields f) })
  | .reading columns record =>
      match position? columns c.next f with
      | none => (.error (.decode f.label .unprojected), c)
      | some index =>
          let moved := { c with next := index + 1 }
          match record[index]? with
          | none => (.error (.decode f.label (.rowEnds record.length (index + 1))), moved)
          | some v =>
              let counted := if v.isNull then moved else { moved with count := moved.count + 1 }
              ((dec.decode v).mapError fun fault => .decode f.label (.value fault.message), counted)

/-- Reads a JSON column and takes it apart; NULL and registration give nothing. -/
def getJson? {α : Type} (details : Details) (shape : Json → Except String α) (f : Field) :
    RowReader (Option α) := do
  match ← get (Decoder.json details).optional f with
  | none => pure none
  | some j =>
      match shape j with
      | .ok a => pure (some a)
      | .error detail => throw (.decode f.label (.value (DecodeFault.jsonShape detail).message))

/-- Reads a JSON column that must not be NULL; registration gives the stand-in. -/
def getJson {α : Type} (details : Details) (shape : Json → Except String α) (standIn : α)
    (f : Field) :
    RowReader α := do
  match ← getJson? details shape f with
  | some a => pure a
  | none =>
      if (← MonadState.get).isRegistering then pure standIn
      else throw (.decode f.label (.value (DecodeFault.mismatch "json" .null).message))

end Cursor

end SqlTree
