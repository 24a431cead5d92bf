import SqlTree.Error
import SqlTree.Log.Event
import SqlTree.Tree.Equality
import SqlTree.Tree.Fields
import SqlTree.Tree.Script

/-!
Settings: columns and their values as a caller names them, one after the other. The first value of a
column counts.
-/

namespace SqlTree

def Field.label (f : Field) : String := f.labelOf (f.script .standard [])

inductive Setting where
  | set (column value : Field)
  /-- a value that has no JSON form; NULL stands in for it -/
  | unencodable (column : Field) (detail : String)

namespace Setting

def assignment : Setting → Assignment
  | set column value => ⟨column, value⟩
  | unencodable column _ => ⟨column, .value .null⟩

def add (row : List Assignment) (s : Setting) : List Assignment :=
  if row.any (·.target.sameExpr s.assignment.target) then row else row ++ [s.assignment]

def collect (settings : List Setting) : List Assignment := settings.foldl add []

/-- What is reported about a setting, whether or not it counts. -/
def warning? : Setting → Option Event
  | set _ _ => none
  | unencodable column detail => some
      { target := Event.issuing
        level := .warn
        data := [("column", .text column.label), ("error", .text (Error.unencodable detail).text),
          ("message", .text "binding NULL for unencodable JSON value")] }

end Setting

end SqlTree
