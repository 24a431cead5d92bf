import SqlTree.Build.Setting

namespace SqlTree.Update

def ofTable (table : Table) : Update :=
  { ctes := [], table := table, assignments := [], source := none, joins := [], conditions := [],
    returning := [] }

inductive Call where
  | ctes (list : List Cte)
  | assignments (list : List Assignment)
  | settings (row : List Setting)
  | source (s : Source)
  | join (j : Join)
  | conditions (list : List Predicate)
  | returning (list : List Field)

def call (u : Update) : Call → Update
  | .ctes list => { u with ctes := u.ctes ++ list }
  | .assignments list => { u with assignments := u.assignments ++ list }
  | .settings row => { u with assignments := u.assignments ++ Setting.collect row }
  | .source source => { u with source := some source }
  | .join join => { u with joins := u.joins ++ [join] }
  | .conditions list => { u with conditions := u.conditions ++ list }
  | .returning list => { u with returning := u.returning ++ list }

def calls (u : Update) (list : List Call) : Update := list.foldl call u

end SqlTree.Update
