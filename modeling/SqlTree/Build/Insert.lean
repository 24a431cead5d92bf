import SqlTree.Build.Setting

/-!
Building an INSERT by calls. The columns are given, or taken from the first row of settings; the
first row that does not fit them is remembered and found when the statement is written.
-/

namespace SqlTree.Insert

def into (table : Table) : Insert :=
  { ctes := [], table := table, columns := [], rows := [], source := none, conflict := none,
    returning := [], fault := none }

def fail (i : Insert) (fault : RowFault) : Insert := { i with fault := i.fault.or (some fault) }

def addValues (i : Insert) (row : List Field) : Insert :=
  let checked :=
    if row.length = i.columns.length then i
    else i.fail (.valueCount (i.rows.length + 1) row.length i.columns.length)
  { checked with rows := i.rows ++ [row] }

def strangers (columns : List Field) (row : List Assignment) : List Assignment :=
  row.filter fun a => !columns.any (·.sameExpr a.target)

/-- The value set for a column; the first column that matches a setting takes it, and of several
settings for one column the last. -/
def valueAt? (columns : List Field) (row : List Assignment) (position : Nat) : Option Field :=
  ((row.filter fun a => columns.findIdx (·.sameExpr a.target) = position).getLast?).map (·.value)

/-- The values in the order of the columns, or the first column without one. -/
def arrange (columns : List Field) (row : List Assignment) : Except String (List Field) :=
  columns.zipIdx.mapM fun (column, position) =>
    match valueAt? columns row position with
    | some value => .ok value
    | none => .error column.name

/-- Appends a row of settings. With no columns and no rows yet, its columns become the columns. -/
def addAssignments (i : Insert) (row : List Assignment) : Insert :=
  if i.rows.isEmpty && i.columns.isEmpty then
    { i with columns := row.map (·.target), rows := i.rows ++ [row.map (·.value)] }
  else
    let number := i.rows.length + 1
    match strangers i.columns row with
    | stranger :: _ => i.fail (.unknownColumn number stranger.target.name)
    | [] =>
        match arrange i.columns row with
        | .error column => i.fail (.missingColumn number column)
        | .ok values => { i with rows := i.rows ++ [values] }

def addSettings (i : Insert) (settings : List Setting) : Insert :=
  i.addAssignments (Setting.collect settings)

inductive Call where
  | ctes (list : List Cte)
  | columns (list : List Field)
  | values (row : List Field)
  | settings (row : List Setting)
  | settingsEach (rows : List (List Setting))
  | source (s : Select)
  | conflict (c : Conflict)
  | returning (list : List Field)

def call (i : Insert) : Call → Insert
  | .ctes list => { i with ctes := i.ctes ++ list }
  | .columns list => { i with columns := list }
  | .values row => i.addValues row
  | .settings row => i.addSettings row
  | .settingsEach rows => rows.foldl addSettings i
  | .source s => { i with source := some s }
  | .conflict c => { i with conflict := some c }
  | .returning list => { i with returning := i.returning ++ list }

def calls (i : Insert) (list : List Call) : Insert := list.foldl call i

end SqlTree.Insert
