import SqlTree.Tree.Basic

namespace SqlTree.Delete

def ofTable (table : Table) : Delete :=
  { ctes := [], table := table, conditions := [], returning := [], everyRow := false }

inductive Call where
  | ctes (list : List Cte)
  | everyRow (allow : Bool)
  | conditions (list : List Predicate)
  | returning (list : List Field)

def call (d : Delete) : Call → Delete
  | .ctes list => { d with ctes := d.ctes ++ list }
  | .everyRow allow => { d with everyRow := allow }
  | .conditions list => { d with conditions := d.conditions ++ list }
  | .returning list => { d with returning := d.returning ++ list }

def calls (d : Delete) (list : List Call) : Delete := list.foldl call d

end SqlTree.Delete
