import SqlTree.Tree.Naming

namespace SqlTree

namespace Field

def ofExpr (expr : Expr) : Field := ⟨expr, none, none, none⟩

def column (t : Table) (name : String) (type : ColumnType) : Field :=
  ofExpr (.column t.name (t.asName.getD "") name type)

/-- A column behind any qualifier, an empty one leaves the column bare. -/
def qualified (qualifier name : String) : Field :=
  ofExpr (.column qualifier "" name .custom)

def bare (name : String) : Field := qualified "" name

def value (v : Value) : Field := ofExpr (.value v)

def shared (name : String) (v : Value) : Field := ofExpr (.shared name v)

def template (format : String) (operands : List Field) : Field := ofExpr (.template format operands)

def raw (text : String) : Field := template text []

def scalar (query : Query) : Field := ofExpr (.scalar query)

/-- The value that an upsert proposes for a column. -/
def proposed (column : Field) : Field := ofExpr (.proposed column.name)

def countRows : Field := raw "COUNT(*)"

def aliased (f : Field) (name : String) : Field :=
  { f with asName := if name = "" then none else some name }

def ordered (f : Field) (direction : Direction) : Field := { f with direction := some direction }

def withNulls (f : Field) (place : NullPlace) : Field := { f with nulls := some place }

end Field

def Cte.field (c : Cte) (column : String) : Field := .qualified c.qualifier column

def Source.output (name : String) (projected : Field) : Field :=
  .qualified name projected.outputName

end SqlTree
