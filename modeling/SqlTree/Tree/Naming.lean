import SqlTree.Tree.Basic

namespace SqlTree

namespace Table

def named (name : String) : Table := ⟨none, name, none⟩

def inSchema (t : Table) (schema : String) : Table := { t with schema := some schema }

/-- An empty alias clears it. -/
def aliased (t : Table) (name : String) : Table :=
  { t with asName := if name = "" then none else some name }

/-- The alias if there is one, else the name. -/
def qualifier (t : Table) : String := t.asName.getD t.name

end Table

namespace Expr

/-- The name of a column, stored or proposed; empty for any other expression. -/
def name : Expr → String
  | column _ _ name _ => name
  | proposed name => name
  | _ => ""

def tableName : Expr → String
  | column table _ _ _ => table
  | _ => ""

/-- What a column is qualified with: the alias of its table, else the name; it may be empty. -/
def qualifier : Expr → String
  | column table tableAlias _ _ => if tableAlias = "" then table else tableAlias
  | _ => ""

def type : Expr → ColumnType
  | column _ _ _ type => type
  | _ => .custom

def columnName? : Expr → Option String
  | column _ _ name _ => some name
  | _ => none

end Expr

namespace Field

def name (f : Field) : String := f.expr.name

def qualifier (f : Field) : String := f.expr.qualifier

/-- The name of the output column: the alias if there is one, else the column's name. -/
def outputName (f : Field) : String := f.asName.getD f.name

end Field

namespace Source

def qualifier : Source → String
  | table t => t.qualifier
  | subquery _ name => name
  | cte name asName => asName.getD name

def name : Source → String
  | table t => t.name
  | subquery _ name => name
  | cte name _ => name

end Source

namespace Cte

def qualifier (c : Cte) : String := c.asName.getD c.name

def isRecursive (c : Cte) : Bool :=
  match c.body with
  | .recursive _ _ => true
  | .plain _ => false

def source (c : Cte) : Source := .cte c.name c.asName

end Cte

inductive StatementKind where
  | select
  | insert
  | update
  | delete
  deriving DecidableEq, Repr

def StatementKind.keyword : StatementKind → String
  | select => "SELECT"
  | insert => "INSERT"
  | update => "UPDATE"
  | delete => "DELETE"

/-- The kind of a statement and its table; it stands for the statement where its text must not. -/
structure StatementId where
  kind : StatementKind
  table : Option String
  deriving DecidableEq, Repr

namespace StatementId

/-- An empty name counts as no table. -/
def of (kind : StatementKind) (table : Option String) : StatementId :=
  ⟨kind, table.filter (· ≠ "")⟩

def text (id : StatementId) : String :=
  match id.table with
  | some table => id.kind.keyword ++ " " ++ table
  | none => id.kind.keyword

end StatementId

def Select.id (s : Select) : StatementId := .of .select (s.source.map Source.name)

def Query.id : Query → StatementId
  | select s => s.id
  | insert i => .of .insert (some i.table.name)
  | update u => .of .update (some u.table.name)
  | delete d => .of .delete (some d.table.name)

end SqlTree
