import SqlTree.Tree.Clauses

/-!
The script of every node of a statement. `bare` holds the qualifiers that columns outside subqueries
are written without.
-/

namespace SqlTree

mutual

def Expr.script (d : Dialect) (bare : List String) : Expr → Script
  | .column table tableAlias name type =>
      .column d bare (Expr.column table tableAlias name type).qualifier name
  | .proposed name => .proposed d name
  | .value v => .ofPiece (.value v)
  | .shared name v => .ofPiece (.shared name v)
  | .template format operands => .template format (Field.scripts d bare operands)
  | .scalar query => .parens (query.script d)

def Field.script (d : Dialect) (bare : List String) : Field → Script
  | ⟨expr, _, _, _⟩ => expr.script d bare

def Field.scripts (d : Dialect) (bare : List String) : List Field → List Script
  | [] => []
  | f :: rest => f.script d bare :: Field.scripts d bare rest

def Field.outputs (d : Dialect) (bare : List String) : List Field → List Script
  | [] => []
  | f :: rest => (f.script d bare ++ .asClause d f.asName) :: Field.outputs d bare rest

def Field.orderings (d : Dialect) : List Field → List Script
  | [] => []
  | f :: rest =>
      (f.script d [] ++ .direction f.direction ++
        if d == .mysql && f.nulls.isSome then
          .failure (.malformed (.ordering (f.labelOf (f.script .standard []))) .nullsUnsupported)
        else .nullPlace f.nulls) :: Field.orderings d rest

def Field.rows (d : Dialect) (bare : List String) : List (List Field) → List Script
  | [] => []
  | row :: rest => .parens (.separated ", " (Field.scripts d bare row)) :: Field.rows d bare rest

/-- A list of column names; anything but a column is a fault, found before its comma is written. -/
def Field.columnNames (d : Dialect) (node : Node) (first : Bool) : List Field → Script
  | [] => .empty
  | f :: rest =>
      (match f.expr.columnName? with
        | some name => .onlyIf (!first) (.text ", ") ++ .ident d name
        | none =>
            .failure (.malformed node (.notColumn ((f.script .standard []).shown f.name)))) ++
        Field.columnNames d node false rest

/-- `place` says whether the predicate stands in an outermost place; without it a group goes by its
own mark. -/
def Predicate.script (d : Dialect) (bare : List String) (place : Option Bool) : Predicate → Script
  | .compare left op right =>
      left.script d bare ++ .text (" " ++ op.symbol ++ " ") ++ right.script d bare
  | .isNull field negated =>
      field.script d bare ++ .text (if negated then " IS NOT NULL" else " IS NULL")
  | .inList field values negated =>
      if values.isEmpty then
        .failure (.malformed (.membership (field.labelOf (field.script .standard [])))
          .emptyValueList)
      else
        field.script d bare ++ .text (if negated then " NOT IN (" else " IN (") ++
        .separated ", " (Field.scripts d bare values) ++ .text ")"
  | .inQuery field query negated =>
      field.script d bare ++ .text (if negated then " NOT IN (" else " IN (") ++
      query.script d ++ .text ")"
  | .between field low high negated =>
      field.script d bare ++ .text (if negated then " NOT BETWEEN " else " BETWEEN ") ++
      low.script d bare ++ .text " AND " ++ high.script d bare
  | .existsRow query negated =>
      .text (if negated then "NOT EXISTS (" else "EXISTS (") ++ query.script d ++ .text ")"
  | .not inner =>
      .onlyIf (!inner.isEmpty) (.text "NOT (" ++ inner.script d bare none ++ .text ")")
  | .group op members toplevel =>
      let outermost := place.getD toplevel
      .group op outermost
        (Predicate.scripts d bare (Predicate.memberPlace outermost members) members)
  | .holds field => field.script d bare

def Predicate.scripts (d : Dialect) (bare : List String) (place : Option Bool) :
    List Predicate → List Script
  | [] => []
  | p :: rest =>
      if p.isEmpty then Predicate.scripts d bare place rest
      else p.script d bare place :: Predicate.scripts d bare place rest

def Source.script (d : Dialect) : Source → Script
  | .table t => .table d t
  | .subquery query name => .parens (query.script d) ++ .text " AS " ++ .ident d name
  | .cte name asName => .ident d name ++ .asClause d asName

def Source.clause (d : Dialect) (keyword : String) : Option Source → Script
  | none => .empty
  | some source => .text keyword ++ source.script d

def Join.script (d : Dialect) : Join → Script
  | ⟨kind, source, conditions⟩ =>
      .text (kind.keyword ++ " ") ++ source.script d ++
      .conditions " ON " (Predicate.scripts d [] (Predicate.memberPlace true conditions) conditions)

def Join.scripts (d : Dialect) : List Join → List Script
  | [] => []
  | join :: rest => join.script d :: Join.scripts d rest

def Cte.script (d : Dialect) : Cte → Script
  | ⟨name, _, columns, body, materialized⟩ =>
      .ident d name ++
      .onlyIf (!columns.isEmpty) (.text " " ++ .parens (.separated ", " (columns.map (.ident d)))) ++
      .text " AS " ++ .materialization d materialized ++ .parens (body.script d name columns)

def CteBody.script (d : Dialect) (name : String) (columns : List String) : CteBody → Script
  | .plain query => Query.plainBody d name columns query
  | .recursive initial step =>
      .recursiveBody name columns initial step (Query.scriptOrEmpty d initial)
        (RecursiveStep.scriptOrEmpty d step)

def Query.plainBody (d : Dialect) (name : String) (columns : List String) : Option Query → Script
  | none => .text "NULL"
  | some query => .checkWidth (.cte name false) columns .only query ++ query.script d

def Query.scriptOrEmpty (d : Dialect) : Option Query → Script
  | none => .empty
  | some query => query.script d

def RecursiveStep.scriptOrEmpty (d : Dialect) : Option RecursiveStep → Script
  | none => .empty
  | some ⟨_, query⟩ => query.script d

def Cte.scripts (d : Dialect) : List Cte → List Script
  | [] => []
  | cte :: rest => cte.script d :: Cte.scripts d rest

def Assignment.script (d : Dialect) (targetBare valueBare : List String) : Assignment → Script
  | ⟨target, value⟩ => target.script d targetBare ++ .text " = " ++ value.script d valueBare

def Assignment.scripts (d : Dialect) (targetBare valueBare : List String) :
    List Assignment → List Script
  | [] => []
  | a :: rest => a.script d targetBare valueBare :: Assignment.scripts d targetBare valueBare rest

def ConflictAction.scripts (d : Dialect) (bare : List String) : ConflictAction → List Script
  | .nothing => []
  | .update assignments => Assignment.scripts d bare bare assignments

def Conflict.script (d : Dialect) (table : Table) : Conflict → Script
  | ⟨target, action⟩ =>
      let node := Node.insert table.name
      let updates := ConflictAction.scripts d [table.qualifier] action
      let set (keyword : String) : Script :=
        .require (!updates.isEmpty) (.malformed node .emptyUpsert) ++
        .text keyword ++ .separated ", " updates
      if d.onConflict then
        .text " ON CONFLICT" ++
        .onlyIf (!target.isEmpty) (.text " " ++ .parens (Field.columnNames d node true target)) ++
        (match action with
          | .nothing => .text " DO NOTHING"
          | .update _ =>
              .require (!target.isEmpty) (.malformed node .noConflictTarget) ++
              set " DO UPDATE SET ")
      else
        match action with
        | .nothing => .empty
        | .update _ => set " ON DUPLICATE KEY UPDATE "

def Conflict.clause (d : Dialect) (table : Table) : Option Conflict → Script
  | none => .empty
  | some conflict => conflict.script d table

def Select.script (d : Dialect) : Select → Script
  | ⟨ctes, distinct, fields, source, joins, conditions, grouping, having, ordering, limit, offset⟩ =>
      let node := Node.select (.of .select (source.map Source.name))
      .require (!fields.isEmpty) (.malformed node .noFields) ++
      .require (limit.all (0 ≤ ·) && offset.all (0 ≤ ·)) (.malformed node .negativeBound) ++
      .withClause ctes (Cte.scripts d ctes) ++
      .text (if distinct then "SELECT DISTINCT " else "SELECT ") ++
      .separated ", " (Field.outputs d [] fields) ++
      Source.clause d " FROM " source ++
      .require (source.isSome || joins.isEmpty) (.malformed node .joinsWithoutSource) ++
      .joinsClause (Join.scripts d joins) ++
      .conditions " WHERE "
        (Predicate.scripts d [] (Predicate.memberPlace true conditions) conditions) ++
      .listClause " GROUP BY " (Field.scripts d [] grouping) ++
      .conditions " HAVING " (Predicate.scripts d [] (Predicate.memberPlace true having) having) ++
      .listClause " ORDER BY " (Field.orderings d ordering) ++
      .bounds d limit offset

def Select.clause (d : Dialect) : Option Select → Script
  | none => .empty
  | some s => .text " " ++ s.script d

def Insert.script (d : Dialect) : Insert → Script
  | ⟨ctes, table, columns, rows, source, conflict, returning, fault⟩ =>
      let node := Node.insert table.name
      let own := [table.qualifier]
      (match fault with
        | none => .empty
        | some fault => .failure (.malformed node (.rows fault))) ++
      .checkReturning d node returning ++
      .withClause ctes (Cte.scripts d ctes) ++
      .text (if d == .mysql && ignoresConflicts conflict then "INSERT IGNORE INTO "
        else "INSERT INTO ") ++
      (if d == .mysql then .tableName d table else .table d table) ++
      .onlyIf (!columns.isEmpty) (.text " " ++ .parens (Field.columnNames d node true columns)) ++
      (if source.isSome then Select.clause d source
        else if !rows.isEmpty then .text " VALUES " ++ .separated ", " (Field.rows d own rows)
        else if !columns.isEmpty then .failure (.malformed node .columnsWithoutValues)
        else .text (if d == .mysql then " () VALUES ()" else " DEFAULT VALUES")) ++
      Conflict.clause d table conflict ++
      .listClause " RETURNING " (Field.outputs d own returning)

def Update.script (d : Dialect) : Update → Script
  | ⟨ctes, table, assignments, source, joins, conditions, returning⟩ =>
      let node := Node.update table.name
      let own := [table.qualifier]
      -- once another relation is in scope, values and output columns keep their qualifiers
      let shared := if source.isSome || !joins.isEmpty then [] else own
      .require (!assignments.isEmpty) (.malformed node .noAssignments) ++
      .checkReturning d node returning ++
      .withClause ctes (Cte.scripts d ctes) ++
      .text "UPDATE " ++ .table d table ++
      (if d == .mysql then
        Source.clause d ", " source ++ .joinsClause (Join.scripts d joins) ++
        .text " SET " ++ .separated ", " (Assignment.scripts d shared shared assignments)
      else
        .text " SET " ++ .separated ", " (Assignment.scripts d own shared assignments) ++
        Source.clause d " FROM " source ++
        .require (source.isSome || joins.isEmpty) (.malformed node .joinsWithoutSource) ++
        .joinsClause (Join.scripts d joins)) ++
      .conditions " WHERE "
        (Predicate.scripts d [] (Predicate.memberPlace true conditions) conditions) ++
      .listClause " RETURNING " (Field.outputs d shared returning)

def Delete.script (d : Dialect) : Delete → Script
  | ⟨ctes, table, conditions, returning, everyRow⟩ =>
      let node := Node.delete table.name
      .require (everyRow || !Predicate.allEmpty conditions) (.malformed node .noConditions) ++
      .checkReturning d node returning ++
      .withClause ctes (Cte.scripts d ctes) ++
      .text "DELETE FROM " ++ .table d table ++
      .conditions " WHERE "
        (Predicate.scripts d [] (Predicate.memberPlace true conditions) conditions) ++
      .listClause " RETURNING " (Field.outputs d [table.qualifier] returning)

def Query.script (d : Dialect) : Query → Script
  | .select s => s.script d
  | .insert i => i.script d
  | .update u => u.script d
  | .delete q => q.script d

end

section Lists

variable (d : Dialect) (bare : List String)

theorem Field.script_eq (f : Field) : f.script d bare = f.expr.script d bare := by
  cases f with
  | mk => rw [Field.script]

theorem Field.scripts_eq_map (fields : List Field) :
    Field.scripts d bare fields = fields.map (·.script d bare) := by
  induction fields with
  | nil => rfl
  | cons f rest ih => simp [Field.scripts, ih]

theorem Field.outputs_eq_map (fields : List Field) :
    Field.outputs d bare fields =
      fields.map fun f => f.script d bare ++ .asClause d f.asName := by
  induction fields with
  | nil => rfl
  | cons f rest ih => simp [Field.outputs, ih]

theorem Field.orderings_eq_map (fields : List Field) :
    Field.orderings d fields = fields.map fun f =>
      f.script d [] ++ .direction f.direction ++
        if d == .mysql && f.nulls.isSome then
          .failure (.malformed (.ordering (f.labelOf (f.script .standard []))) .nullsUnsupported)
        else .nullPlace f.nulls := by
  induction fields with
  | nil => rfl
  | cons f rest ih => simp [Field.orderings, ih]

theorem Field.rows_eq_map (rows : List (List Field)) :
    Field.rows d bare rows =
      rows.map fun row => .parens (.separated ", " (row.map (·.script d bare))) := by
  induction rows with
  | nil => rfl
  | cons row rest ih => simp [Field.rows, Field.scripts_eq_map, ih]

theorem Predicate.scripts_eq_map (place : Option Bool) (members : List Predicate) :
    Predicate.scripts d bare place members =
      (members.filter (!·.isEmpty)).map (·.script d bare place) := by
  induction members with
  | nil => rfl
  | cons p rest ih => cases empty : p.isEmpty <;> simp [Predicate.scripts, ih, empty]

theorem Join.scripts_eq_map (joins : List Join) : Join.scripts d joins = joins.map (·.script d) := by
  induction joins with
  | nil => rfl
  | cons j rest ih => simp [Join.scripts, ih]

theorem Cte.scripts_eq_map (ctes : List Cte) : Cte.scripts d ctes = ctes.map (·.script d) := by
  induction ctes with
  | nil => rfl
  | cons c rest ih => simp [Cte.scripts, ih]

theorem Assignment.scripts_eq_map (targetBare valueBare : List String) (list : List Assignment) :
    Assignment.scripts d targetBare valueBare list =
      list.map (·.script d targetBare valueBare) := by
  induction list with
  | nil => rfl
  | cons a rest ih => simp [Assignment.scripts, ih]

end Lists

end SqlTree
