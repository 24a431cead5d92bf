namespace SqlTree

inductive Level where
  | error
  | warn
  | info
  | debug
  | trace
  deriving DecidableEq, Repr

inductive Datum where
  | text (s : String)
  | count (n : Nat)
  deriving DecidableEq, Repr

structure Event where
  target : String
  level : Level
  data : List (String × Datum)
  deriving DecidableEq, Repr

namespace Event

def issuing : String := "sqkit::exec"

def observing : String := "sqkit::sql"

end Event

end SqlTree
