import SqlTree.Postgres.Column
import SqlTree.Run.Database

/-!
The PostgreSQL client as a backend: parameters are encoded for the types that the server declares,
columns decoded from left to right, and server errors told apart by their code.
-/

namespace SqlTree.Postgres

structure ServerError where
  code : String
  message : String
  constraint : Option String
  /-- all that the client says of the error -/
  text : String

/-- Violated constraints have kinds of their own. -/
def ServerError.toError (e : ServerError) : Error :=
  let message := e.constraint.getD "unknown" ++ ": " ++ e.message
  if e.code = "23505" then .uniqueViolation message
  else if e.code = "23503" then .foreignKeyViolation message
  else if e.code = "23514" then .checkViolation message
  else .query e.text

inductive Stage where
  | parse
  | execute
  deriving DecidableEq, Repr

/-- What a server declares about a statement and answers to it. -/
structure Server (τ : Type) where
  parameters : List (ParamType τ)
  columns : List (String × ParamType τ)
  rows : List (List (Option (List UInt8)))
  tag : String
  failure : Option (Stage × ServerError)

abbrev Bound := List (Option (List UInt8))

variable {τ : Type} (l : Library τ)

/-- Appends the parameters from a place on to the message, up to the first one that cannot be
written, and tells which part of the message each of them is. -/
def encodeFrom (place : Nat) :
    List (Value × ParamType τ) → ExceptT (Nat × EncodeFault τ) (StateM (List UInt8)) Bound
  | [] => pure []
  | (v, type) :: rest => do
      let before ← get
      let null ← (encode l v type).adapt (place, ·)
      let after ← get
      let cell := match null with
        | .yes => none
        | .no => some (after.drop before.length)
      let others ← encodeFrom (place + 1) rest
      pure (cell :: others)

def readCount? (word : List Char) : Option Nat :=
  let digits := match word with
    | '+' :: rest => rest
    | _ => word
  let n := digits.foldl (fun n c => 10 * n + (c.toNat - 48)) 0
  if digits.isEmpty || !digits.all Char.isDigit || Nat.pow 2 64 ≤ n then none else some n

/-- The number of affected rows is the last word of a command tag. -/
def affectedRows (tag : String) : Nat :=
  (readCount? (tag.toList.reverse.takeWhile (· ≠ ' ')).reverse).getD 0

def instantly {α : Type} (result : Except Error α) : Reply α := ⟨result, ⟨0⟩, ⟨0⟩⟩

def Server.exchange {α : Type} (server : Server τ) (b : Built) (answer : Except Error α) :
    StateM Bound (Reply α) := do
  match server.failure with
  | some (.parse, e) => pure (instantly (.error e.toError))
  | failure =>
      match ((encodeFrom l 0 (b.args.zip server.parameters)).run []).1 with
      | .error (place, fault) => pure (instantly (.error (.query (l.refusal place fault))))
      | .ok bound =>
          set bound
          match failure with
          | some (_, e) => pure (instantly (.error e.toError))
          | none => pure (instantly answer)

def Server.query (server : Server τ) (b : Built) : StateM Bound (Reply (List Record)) :=
  server.exchange l b (server.rows.mapM (decodeRow l server.columns))

def Server.backend (server : Server τ) : Backend Bound where
  dialect := .postgres
  query := server.query l
  execute b := server.exchange l b (.ok (affectedRows server.tag))
  generatedId := Backend.idFromRows (server.query l)

end SqlTree.Postgres
