import SqlTree.Row.Cursor
import SqlTree.Run.Issue

namespace SqlTree

/-- A mapper reads one row and may keep a state of its own from row to row. -/
abbrev Mapper (σ α : Type) := ExceptT Error (StateM (Cursor × σ)) α

/-- Steps of a fetch may fail; what they did to the session and the mapper's state remains. -/
abbrev Fetching (ω σ α : Type) := ExceptT Error (StateM (Session ω × σ)) α

namespace Mapper

variable {σ α : Type}

def reading (reader : RowReader α) : Mapper σ α := fun (state : Cursor × σ) =>
  let (result, cursor) := reader.run state.1
  (result, cursor, state.2)

end Mapper

namespace Fetching

variable {ω σ α : Type}

def call (mapper : Mapper σ α) (row : Cursor) : Fetching ω σ (α × Cursor) :=
  fun (state : Session ω × σ) =>
    let (result, cursor, own) := mapper.run (row, state.2)
    (result.map (·, cursor), state.1, own)

def inSession (action : StateM (Session ω) (Except Error α)) : Fetching ω σ α :=
  fun (state : Session ω × σ) =>
    let (result, session) := action state.1
    (result, session, state.2)

/-- The statement with the columns that the mapper registers, if it has none yet. -/
def registered (q : Query) (mapper : Mapper σ α) : Fetching ω σ Query := do
  if q.projection.isEmpty then
    let (_, cursor) ← call mapper Cursor.register
    if cursor.registered.isEmpty then
      throw (Fault.malformed (.statement q.id) .nothingRead).toError
    pure (q.withProjection cursor.registered)
  else pure q

def mapRows (columns : List Field) (mapper : Mapper σ α) : List Record → Fetching ω σ (List α)
  | [] => pure []
  | record :: rest => do
      let (mapped, _) ← call mapper (Cursor.read columns record)
      let others ← mapRows columns mapper rest
      pure (mapped :: others)

/-- Runs the statement and maps the first rows, all of them if there is no limit. -/
def rows (db : Database ω) (q : Query) (limit : Option Nat) (mapper : Mapper σ α) :
    Fetching ω σ (List α) := do
  let q ← registered q mapper
  let built ← q.build db.dialect
  let records ← inSession (Issue.query db q.id built)
  mapRows q.projection mapper (match limit with
    | some most => records.take most
    | none => records)

def all (db : Database ω) (q : Query) (mapper : Mapper σ α) : Fetching ω σ (List α) :=
  rows db q none mapper

def each (db : Database ω) (q : Query) (mapper : Mapper σ Unit) : Fetching ω σ Nat := do
  pure (← rows db q none mapper).length

def optional (db : Database ω) (q : Query) (mapper : Mapper σ α) : Fetching ω σ (Option α) := do
  pure (← rows db q (some 1) mapper).head?

def one (db : Database ω) (q : Query) (mapper : Mapper σ α) : Fetching ω σ α := do
  match ← optional db q mapper with
  | some mapped => pure mapped
  | none => throw (.notFound (q.id.text ++ " returned no rows"))

end Fetching

end SqlTree
