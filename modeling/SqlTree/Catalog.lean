import SqlTree.Tree.Fields

namespace SqlTree

structure TableDecl where
  name : String
  columns : List (String × ColumnType)

namespace TableDecl

/-- An empty alias stands for the table's own name. -/
def bind (decl : TableDecl) (name : String) : Table := (Table.named decl.name).aliased name

def fields (decl : TableDecl) (table : Table) : List Field :=
  decl.columns.map fun (column, type) => .column table column type

end TableDecl

end SqlTree
