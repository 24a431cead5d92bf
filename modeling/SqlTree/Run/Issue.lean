import SqlTree.Run.Database
import SqlTree.Statement

namespace SqlTree

inductive ExecMode where
  | nothing
  | affectedRows
  | generatedId
  deriving DecidableEq, Repr

/-- Only the part asked for is there. -/
structure ExecResult where
  affectedRows : Option Nat
  generatedId : Option Int64
  deriving DecidableEq, Repr

namespace Issue

variable {ω : Type}

def event (d : Dialect) (id : StatementId) (b : Built) : Event :=
  { target := Event.issuing
    level := .debug
    data := [("statement", .text id.text), ("dialect", .text d.name),
      ("param_count", .count b.args.length), ("sql", .text b.sql),
      ("message", .text "executing statement")] }

def run {α : Type} (db : Database ω) (id : StatementId) (b : Built)
    (send : StateM (Session ω) (Except Error α)) : StateM (Session ω) (Except Error α) := do
  Session.emit (event db.dialect id b)
  pure ((← send).mapError (.execute id))

def query (db : Database ω) (id : StatementId) (b : Built) :
    StateM (Session ω) (Except Error (List Record)) :=
  run db id b (db.query b)

/-- A numbered dialect has no generated id apart from the rows of a statement. -/
def refusesId (d : Dialect) (q : Query) : Option Error :=
  if d = .postgres ∧ q.returnsRows = false then
    some (.validation (q.id.text ++ ": reading the generated id on " ++ d.name ++
      " requires a RETURNING clause"))
  else none

def exec (db : Database ω) (q : Query) (mode : ExecMode) :
    StateM (Session ω) (Except Error ExecResult) :=
  let refusal := if mode = .generatedId then refusesId db.dialect q else none
  match refusal, q.build db.dialect with
  | some e, _ => pure (.error e)
  | none, .error e => pure (.error e)
  | none, .ok b =>
      match mode with
      | .nothing => do
          let result ← run db q.id b (db.execute b)
          pure (result.map fun _ => ⟨none, none⟩)
      | .affectedRows => do
          let result ← run db q.id b (db.execute b)
          pure (result.map fun n => ⟨some n, none⟩)
      | .generatedId => do
          let result ← run db q.id b (db.generatedId b)
          pure (result.map fun id => ⟨none, id⟩)

def existsAnswer (records : List Record) : Except Error Bool :=
  match records.head?.bind List.head? with
  | some (.bool b) => .ok b
  | some (.int n) => .ok (n ≠ 0)
  | some other => .error (.decode "EXISTS" (.value ("expected a boolean, got " ++ other.kindName)))
  | none => .error (.decode "EXISTS" (.value "no row returned"))

def hasRows (db : Database ω) (s : Select) : StateM (Session ω) (Except Error Bool) :=
  match (s.question.build db.dialect).mapError Fault.toError with
  | .error e => pure (.error e)
  | .ok b => do
      let result ← query db s.id b
      pure (result.bind existsAnswer)

end Issue

end SqlTree
