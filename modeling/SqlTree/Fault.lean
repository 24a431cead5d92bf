import SqlTree.Dialect
import SqlTree.Ident
import SqlTree.Tree.Naming

namespace SqlTree

/-- The node at fault, named as messages name it. -/
inductive Node where
  | select (id : StatementId)
  | insert (table : String)
  | update (table : String)
  | delete (table : String)
  | cte (name : String) (isRecursive : Bool)
  | membership (label : String)
  | ordering (label : String)
  | template (format : String)
  | statement (id : StatementId)
  deriving DecidableEq, Repr

def Node.text : Node → String
  | select id => id.text
  | insert table => "INSERT INTO `" ++ table ++ "`"
  | update table => "UPDATE `" ++ table ++ "`"
  | delete table => "DELETE FROM `" ++ table ++ "`"
  | cte name true => "recursive CTE `" ++ name ++ "`"
  | cte name false => "CTE `" ++ name ++ "`"
  | membership label => "IN predicate on `" ++ label ++ "`"
  | ordering label => "ORDER BY " ++ label
  | template format => "expression `" ++ format ++ "`"
  | statement id => id.text

inductive CteBranch where
  | only
  | initial
  | step
  deriving DecidableEq, Repr

def CteBranch.text : CteBranch → String
  | .only => "query"
  | .initial => "initial query"
  | .step => "recursive query"

inductive Cause where
  | noFields
  | negativeBound
  | joinsWithoutSource
  | nullsUnsupported
  | returningUnsupported (d : Dialect)
  | rows (fault : RowFault)
  | notColumn (text : String)
  | columnsWithoutValues
  | emptyUpsert
  | noConflictTarget
  | noAssignments
  | noConditions
  | noInitial
  | noStep
  | columnCount (declared : Nat) (branch : CteBranch) (projected : Nat)
  | emptyValueList
  | unusedOperands (count : Nat)
  | nothingRead
  deriving DecidableEq, Repr

def RowFault.message : RowFault → String
  | valueCount row values columns =>
      "row " ++ row.repr ++ " has " ++ values.repr ++ " value(s) for " ++ columns.repr ++ " column(s)"
  | unknownColumn row column =>
      "row " ++ row.repr ++ " sets column `" ++ column ++ "` which the first row did not"
  | missingColumn row column =>
      "row " ++ row.repr ++ " does not set column `" ++ column ++ "`"

def Cause.message : Cause → String
  | noFields => "no fields to select"
  | negativeBound => "LIMIT and OFFSET must not be negative"
  | joinsWithoutSource => "joins require a FROM table"
  | nullsUnsupported => "mysql does not support NULLS FIRST/LAST"
  | returningUnsupported d => d.name ++ " does not support RETURNING"
  | rows fault => fault.message
  | notColumn text => "`" ++ text ++ "` is not a column"
  | columnsWithoutValues => "columns given but no values"
  | emptyUpsert => "upsert has no assignments"
  | noConflictTarget => "ON CONFLICT DO UPDATE needs a conflict target"
  | noAssignments => "no assignments"
  | noConditions => "no WHERE conditions; call allow_delete_all(true) to delete every row"
  | noInitial => "has no initial query"
  | noStep => "initial query set but neither union nor union_all was called"
  | columnCount declared branch projected =>
      "declares " ++ declared.repr ++ " column(s) but its " ++ branch.text ++ " projects " ++
        projected.repr
  | emptyValueList => "static value list is empty"
  | unusedOperands count => count.repr ++ " operand(s) have no `?` slot"
  | nothingRead => "no fields to project and the row mapper read none"

inductive Fault where
  | identifier (refusal : Ident.Refusal)
  | malformed (node : Node) (cause : Cause)
  deriving DecidableEq, Repr

end SqlTree
