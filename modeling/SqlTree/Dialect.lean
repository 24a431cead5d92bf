namespace SqlTree

inductive Dialect where
  | sqlite
  | postgres
  | mysql
  deriving DecidableEq, Repr, Inhabited

namespace Dialect

def standard : Dialect := .sqlite

def name : Dialect → String
  | sqlite => "sqlite"
  | postgres => "postgres"
  | mysql => "mysql"

/-- Numbered dialects write `$1`, `$2`, ...; positional ones write `?` each time. -/
def numbered : Dialect → Bool
  | postgres => true
  | sqlite | mysql => false

def quote : Dialect → Char
  | mysql => '\x60'
  | sqlite | postgres => '"'

def returning : Dialect → Bool
  | mysql => false
  | sqlite | postgres => true

def onConflict : Dialect → Bool
  | mysql => false
  | sqlite | postgres => true

/-- Reads a lower-case name; no name at all means the standard dialect. -/
def named? (name : String) : Option Dialect :=
  if name = "" ∨ name = "sqlite" ∨ name = "sqlite3" then some sqlite
  else if name = "postgres" ∨ name = "postgresql" ∨ name = "pg" then some postgres
  else if name = "mysql" then some mysql
  else none

theorem named?_name (d : Dialect) : named? d.name = some d := by
  cases d <;> decide

theorem numbered_eq_true {d : Dialect} : d.numbered = true ↔ d = postgres := by
  cases d <;> decide

end Dialect

end SqlTree
