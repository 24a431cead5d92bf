import SqlTree.Tree.Script

/-!
Rendering: a renderer is handed down the tree, and each node writes into it what it finds. A fault
ends the rendering and leaves what was written before it.
-/

namespace SqlTree

/-- A step that writes into a renderer, unless it fails. -/
abbrev Rendering := ExceptT Fault (StateM Renderer) Unit

namespace Rendering

def on (m : Rendering) (r : Renderer) : Renderer × Option Fault :=
  match m.run r with
  | (.ok (), after) => (after, none)
  | (.error fault, after) => (after, some fault)

def build (d : Dialect) (m : Rendering) : Except Fault Built :=
  match m.on (Renderer.new d) with
  | (r, none) => .ok r.finish
  | (_, some fault) => .error fault

def shown (name : String) (m : Rendering) : String :=
  match m.on (Renderer.new .standard) with
  | (r, none) => r.sql
  | (_, some _) => name

def text (s : String) : Rendering := modify (·.push s)

def value (v : Value) : Rendering := modify (·.bind v)

def shared (name : String) (v : Value) : Rendering := modify (·.bindShared name v)

def forDialect (m : Dialect → Rendering) : Rendering := do m (← get).dialect

def ident (name : String) : Rendering :=
  forDialect fun d =>
    match Ident.write d name with
    | .ok written => text written
    | .error refusal => throw (.identifier refusal)

def onlyIf (condition : Bool) (m : Rendering) : Rendering := if condition then m else pure ()

def require (condition : Bool) (fault : Fault) : Rendering :=
  if condition then pure () else throw fault

def parens (m : Rendering) : Rendering := do
  text "("
  m
  text ")"

def separated (separator : String) (first : Bool) : List Rendering → Rendering
  | [] => pure ()
  | m :: rest => do
      onlyIf (!first) (text separator)
      m
      separated separator false rest

/-- Looks for the slots of a template, where `before` is the text since the last one. A slot without
an operand stays a question mark. -/
def fillSlots (format : String) (before : List Char) : List Char → List Rendering → Rendering
  | [], unused => do
      text (String.ofList before)
      require unused.isEmpty (.malformed (.template format) (.unusedOperands unused.length))
  | c :: rest, operands =>
      if c = '?' then do
        text (String.ofList before)
        match operands with
        | [] => do
            text "?"
            fillSlots format [] rest []
        | operand :: others => do
            operand
            fillSlots format [] rest others
      else fillSlots format (before ++ [c]) rest operands

def template (format : String) (operands : List Rendering) : Rendering :=
  fillSlots format [] format.toList operands

def asClause : Option String → Rendering
  | none => pure ()
  | some name => do
      text " AS "
      ident name

def schemaPart : Option String → Rendering
  | none => pure ()
  | some schema => do
      ident schema
      text "."

def tableName (t : Table) : Rendering := do
  schemaPart t.schema
  ident t.name

def table (t : Table) : Rendering := do
  tableName t
  asClause t.asName

def group (op : Connective) (outermost : Bool) (members : List Rendering) : Rendering :=
  match members with
  | [] => pure ()
  | [m] => m
  | _ =>
      if outermost then separated op.separator true members
      else parens (separated op.separator true members)

def listClause (keyword : String) (items : List Rendering) : Rendering :=
  onlyIf (!items.isEmpty) do
    text keyword
    separated ", " true items

def joinsClause (joins : List Rendering) : Rendering :=
  onlyIf (!joins.isEmpty) do
    text " "
    separated " " true joins

def conditions (keyword : String) (members : List Rendering) : Rendering :=
  onlyIf (!members.isEmpty) do
    text keyword
    group .and true members

def withClause (ctes : List Cte) (definitions : List Rendering) : Rendering :=
  onlyIf (!ctes.isEmpty) do
    text "WITH "
    onlyIf (ctes.any Cte.isRecursive) (text "RECURSIVE ")
    separated ", " true definitions
    text " "

def materialization : Option Bool → Rendering
  | none => pure ()
  | some hint =>
      forDialect fun d =>
        onlyIf (d == .postgres) (text (if hint then "MATERIALIZED " else "NOT MATERIALIZED "))

def checkWidth (node : Node) (columns : List String) (branch : CteBranch) (q : Query) : Rendering :=
  match q.width with
  | none => pure ()
  | some width =>
      require (columns.isEmpty || width == columns.length)
        (.malformed node (.columnCount columns.length branch width))

def recursiveBody (name : String) (columns : List String) (initial : Option Query)
    (step : Option RecursiveStep) (renderInitial renderStep : Rendering) : Rendering :=
  let node := Node.cte name true
  match initial, step with
  | none, _ => throw (.malformed node .noInitial)
  | some _, none => throw (.malformed node .noStep)
  | some i, some s => do
      checkWidth node columns .initial i
      checkWidth node columns .step s.query
      renderInitial
      text s.kind.separator
      renderStep

def direction : Option Direction → Rendering
  | none => pure ()
  | some .ascending => text " ASC"
  | some .descending => text " DESC"

def nullPlace : Option NullPlace → Rendering
  | none => pure ()
  | some .first => text " NULLS FIRST"
  | some .last => text " NULLS LAST"

def integer (n : Int64) : Rendering := text (SqlTree.Text.integer n.toInt)

def bounds (limit offset : Option Int64) : Rendering :=
  match limit, offset with
  | none, none => pure ()
  | some n, none => do
      text " LIMIT "
      integer n
  | some n, some m => do
      text " LIMIT "
      integer n
      text " OFFSET "
      integer m
  | none, some m => do
      forDialect fun
        | .postgres => text " OFFSET "
        | .sqlite => text " LIMIT -1 OFFSET "
        | .mysql => text " LIMIT 18446744073709551615 OFFSET "
      integer m

/-- A name in a list of columns; anything but a column is a fault, found before its comma is
written. -/
def listedName (node : Node) (first : Bool) (shown : String) : Option String → Rendering
  | some name => do
      onlyIf (!first) (text ", ")
      ident name
  | none => throw (.malformed node (.notColumn shown))

def checkRows (node : Node) : Option RowFault → Rendering
  | none => pure ()
  | some fault => throw (.malformed node (.rows fault))

def insertedRows (node : Node) (columns : List Field) (rows : List Rendering) : Rendering :=
  if !rows.isEmpty then do
    text " VALUES "
    separated ", " true rows
  else if !columns.isEmpty then throw (.malformed node .columnsWithoutValues)
  else forDialect fun d => text (if d == .mysql then " () VALUES ()" else " DEFAULT VALUES")

def upsert (node : Node) (keyword : String) (updates : List Rendering) : Rendering := do
  require (!updates.isEmpty) (.malformed node .emptyUpsert)
  text keyword
  separated ", " true updates

def checkReturning (node : Node) (returning : List Field) : Rendering :=
  forDialect fun d =>
    require (returning.isEmpty || d.returning) (.malformed node (.returningUnsupported d))

end Rendering

open Rendering

mutual

def Expr.render (bare : List String) : Expr → Rendering
  | .column table tableAlias name type => do
      let qualifier := (Expr.column table tableAlias name type).qualifier
      onlyIf (qualifier ≠ "" && !bare.contains qualifier) do
        ident qualifier
        text "."
      ident name
  | .proposed name =>
      forDialect fun
        | .mysql => do
            text "VALUES("
            ident name
            text ")"
        | .sqlite | .postgres => do
            text "EXCLUDED."
            ident name
  | .value v => Rendering.value v
  | .shared name v => Rendering.shared name v
  | .template format operands => Rendering.template format (Field.renderings bare operands)
  | .scalar query => parens query.render

def Field.render (bare : List String) : Field → Rendering
  | ⟨expr, _, _, _⟩ => expr.render bare

def Field.renderings (bare : List String) : List Field → List Rendering
  | [] => []
  | f :: rest => f.render bare :: Field.renderings bare rest

def Field.renderOutput (bare : List String) : Field → Rendering
  | ⟨expr, asName, _, _⟩ => do
      expr.render bare
      asClause asName

def Field.renderOutputs (bare : List String) : List Field → List Rendering
  | [] => []
  | f :: rest => f.renderOutput bare :: Field.renderOutputs bare rest

def Field.renderOrdering : Field → Rendering
  | ⟨expr, asName, way, nulls⟩ => do
      expr.render []
      direction way
      forDialect fun d =>
        if d == .mysql && nulls.isSome then
          let label := Field.labelBy ⟨expr, asName, way, nulls⟩ ((expr.render []).shown expr.name)
          throw (.malformed (.ordering label) .nullsUnsupported)
        else nullPlace nulls

def Field.renderOrderings : List Field → List Rendering
  | [] => []
  | f :: rest => f.renderOrdering :: Field.renderOrderings rest

def Field.renderRows (bare : List String) : List (List Field) → List Rendering
  | [] => []
  | row :: rest =>
      parens (separated ", " true (Field.renderings bare row)) :: Field.renderRows bare rest

def Field.renderNames (node : Node) (first : Bool) : List Field → Rendering
  | [] => pure ()
  | f :: rest => do
      listedName node first ((f.render []).shown f.name) f.expr.columnName?
      Field.renderNames node false rest

/-- `place` says whether the predicate stands in an outermost place; without it a group goes by its
own mark. -/
def Predicate.render (bare : List String) (place : Option Bool) : Predicate → Rendering
  | .compare left op right => do
      left.render bare
      text (" " ++ op.symbol ++ " ")
      right.render bare
  | .isNull field negated => do
      field.render bare
      text (if negated then " IS NOT NULL" else " IS NULL")
  | .inList field values negated =>
      if values.isEmpty then
        throw (.malformed (.membership (field.labelBy ((field.render []).shown field.name)))
          .emptyValueList)
      else do
        field.render bare
        text (if negated then " NOT IN (" else " IN (")
        separated ", " true (Field.renderings bare values)
        text ")"
  | .inQuery field query negated => do
      field.render bare
      text (if negated then " NOT IN (" else " IN (")
      query.render
      text ")"
  | .between field low high negated => do
      field.render bare
      text (if negated then " NOT BETWEEN " else " BETWEEN ")
      low.render bare
      text " AND "
      high.render bare
  | .existsRow query negated => do
      text (if negated then "NOT EXISTS (" else "EXISTS (")
      query.render
      text ")"
  | .not inner =>
      onlyIf (!inner.isEmpty) do
        text "NOT ("
        inner.render bare none
        text ")"
  | .group op members toplevel =>
      let outermost := place.getD toplevel
      Rendering.group op outermost
        (Predicate.renderings bare (Predicate.memberPlace outermost members) members)
  | .holds field => field.render bare

def Predicate.renderings (bare : List String) (place : Option Bool) :
    List Predicate → List Rendering
  | [] => []
  | p :: rest =>
      if p.isEmpty then Predicate.renderings bare place rest
      else p.render bare place :: Predicate.renderings bare place rest

def Source.render : Source → Rendering
  | .table t => Rendering.table t
  | .subquery query name => do
      parens query.render
      text " AS "
      ident name
  | .cte name asName => do
      ident name
      asClause asName

def Source.renderClause (keyword : String) : Option Source → Rendering
  | none => pure ()
  | some source => do
      text keyword
      source.render

def Join.render : Join → Rendering
  | ⟨kind, source, conditions⟩ => do
      text (kind.keyword ++ " ")
      source.render
      Rendering.conditions " ON "
        (Predicate.renderings [] (Predicate.memberPlace true conditions) conditions)

def Join.renderings : List Join → List Rendering
  | [] => []
  | join :: rest => join.render :: Join.renderings rest

def Cte.render : Cte → Rendering
  | ⟨name, _, columns, body, materialized⟩ => do
      ident name
      onlyIf (!columns.isEmpty) do
        text " "
        parens (separated ", " true (columns.map ident))
      text " AS "
      materialization materialized
      parens (body.render name columns)

def CteBody.render (name : String) (columns : List String) : CteBody → Rendering
  | .plain query => Query.renderPlain name columns query
  | .recursive initial step =>
      recursiveBody name columns initial step (Query.renderOption initial)
        (RecursiveStep.renderOption step)

def Query.renderPlain (name : String) (columns : List String) : Option Query → Rendering
  | none => text "NULL"
  | some query => do
      checkWidth (.cte name false) columns .only query
      query.render

def Query.renderOption : Option Query → Rendering
  | none => pure ()
  | some query => query.render

def RecursiveStep.renderOption : Option RecursiveStep → Rendering
  | none => pure ()
  | some ⟨_, query⟩ => query.render

def Cte.renderings : List Cte → List Rendering
  | [] => []
  | cte :: rest => cte.render :: Cte.renderings rest

def Assignment.render (targetBare valueBare : List String) : Assignment → Rendering
  | ⟨target, value⟩ => do
      target.render targetBare
      text " = "
      value.render valueBare

def Assignment.renderings (targetBare valueBare : List String) : List Assignment → List Rendering
  | [] => []
  | a :: rest => a.render targetBare valueBare :: Assignment.renderings targetBare valueBare rest

def ConflictAction.renderings (bare : List String) : ConflictAction → List Rendering
  | .nothing => []
  | .update assignments => Assignment.renderings bare bare assignments

def Conflict.render (table : Table) : Conflict → Rendering
  | ⟨target, action⟩ =>
      let node := Node.insert table.name
      let names := Field.renderNames node true target
      let updates := action.renderings [table.qualifier]
      match action with
      | .nothing =>
          forDialect fun d =>
            onlyIf d.onConflict do
              text " ON CONFLICT"
              onlyIf (!target.isEmpty) do
                text " "
                parens names
              text " DO NOTHING"
      | .update _ =>
          forDialect fun d =>
            if d.onConflict then do
              text " ON CONFLICT"
              onlyIf (!target.isEmpty) do
                text " "
                parens names
              require (!target.isEmpty) (.malformed node .noConflictTarget)
              upsert node " DO UPDATE SET " updates
            else upsert node " ON DUPLICATE KEY UPDATE " updates

def Conflict.renderClause (table : Table) : Option Conflict → Rendering
  | none => pure ()
  | some conflict => conflict.render table

def Select.render : Select → Rendering
  | ⟨ctes, distinct, fields, source, joins, conditions, grouping, having, ordering, limit, offset⟩ =>
      do
        let node := Node.select (.of .select (source.map Source.name))
        require (!fields.isEmpty) (.malformed node .noFields)
        require (limit.all (0 ≤ ·) && offset.all (0 ≤ ·)) (.malformed node .negativeBound)
        withClause ctes (Cte.renderings ctes)
        text (if distinct then "SELECT DISTINCT " else "SELECT ")
        separated ", " true (Field.renderOutputs [] fields)
        Source.renderClause " FROM " source
        require (source.isSome || joins.isEmpty) (.malformed node .joinsWithoutSource)
        joinsClause (Join.renderings joins)
        Rendering.conditions " WHERE "
          (Predicate.renderings [] (Predicate.memberPlace true conditions) conditions)
        listClause " GROUP BY " (Field.renderings [] grouping)
        Rendering.conditions " HAVING "
          (Predicate.renderings [] (Predicate.memberPlace true having) having)
        listClause " ORDER BY " (Field.renderOrderings ordering)
        bounds limit offset

def Select.renderClause : Option Select → Rendering
  | none => pure ()
  | some select => do
      text " "
      select.render

def Insert.render : Insert → Rendering
  | ⟨ctes, table, columns, rows, source, conflict, returning, fault⟩ => do
      let node := Node.insert table.name
      checkRows node fault
      checkReturning node returning
      withClause ctes (Cte.renderings ctes)
      forDialect fun d =>
        text (if d == .mysql && ignoresConflicts conflict then "INSERT IGNORE INTO "
          else "INSERT INTO ")
      forDialect fun d => if d == .mysql then tableName table else Rendering.table table
      onlyIf (!columns.isEmpty) do
        text " "
        parens (Field.renderNames node true columns)
      (if source.isSome then Select.renderClause source
        else insertedRows node columns (Field.renderRows [table.qualifier] rows))
      Conflict.renderClause table conflict
      listClause " RETURNING " (Field.renderOutputs [table.qualifier] returning)

def Update.render : Update → Rendering
  | ⟨ctes, table, assignments, source, joins, conditions, returning⟩ => do
      let node := Node.update table.name
      let own := [table.qualifier]
      -- once another relation is in scope, values and output columns keep their qualifiers
      let shared := if source.isSome || !joins.isEmpty then [] else own
      require (!assignments.isEmpty) (.malformed node .noAssignments)
      checkReturning node returning
      withClause ctes (Cte.renderings ctes)
      text "UPDATE "
      Rendering.table table
      forDialect fun d =>
        if d == .mysql then do
          Source.renderClause ", " source
          joinsClause (Join.renderings joins)
          text " SET "
          separated ", " true (Assignment.renderings shared shared assignments)
        else do
          text " SET "
          separated ", " true (Assignment.renderings own shared assignments)
          Source.renderClause " FROM " source
          require (source.isSome || joins.isEmpty) (.malformed node .joinsWithoutSource)
          joinsClause (Join.renderings joins)
      Rendering.conditions " WHERE "
        (Predicate.renderings [] (Predicate.memberPlace true conditions) conditions)
      listClause " RETURNING " (Field.renderOutputs shared returning)

def Delete.render : Delete → Rendering
  | ⟨ctes, table, conditions, returning, everyRow⟩ => do
      let node := Node.delete table.name
      require (everyRow || !Predicate.allEmpty conditions) (.malformed node .noConditions)
      checkReturning node returning
      withClause ctes (Cte.renderings ctes)
      text "DELETE FROM "
      Rendering.table table
      Rendering.conditions " WHERE "
        (Predicate.renderings [] (Predicate.memberPlace true conditions) conditions)
      listClause " RETURNING " (Field.renderOutputs [table.qualifier] returning)

def Query.render : Query → Rendering
  | .select s => s.render
  | .insert i => i.render
  | .update u => u.render
  | .delete d => d.render

end

section Lists

variable (bare : List String)

theorem Field.renderings_eq_map (fields : List Field) :
    Field.renderings bare fields = fields.map (·.render bare) := by
  induction fields with
  | nil => rfl
  | cons f rest ih => simp [Field.renderings, ih]

theorem Field.renderOutputs_eq_map (fields : List Field) :
    Field.renderOutputs bare fields = fields.map (·.renderOutput bare) := by
  induction fields with
  | nil => rfl
  | cons f rest ih => simp [Field.renderOutputs, ih]

theorem Field.renderOrderings_eq_map (fields : List Field) :
    Field.renderOrderings fields = fields.map (·.renderOrdering) := by
  induction fields with
  | nil => rfl
  | cons f rest ih => simp [Field.renderOrderings, ih]

theorem Field.renderRows_eq_map (rows : List (List Field)) :
    Field.renderRows bare rows =
      rows.map fun row => parens (separated ", " true (row.map (·.render bare))) := by
  induction rows with
  | nil => rfl
  | cons row rest ih => simp [Field.renderRows, Field.renderings_eq_map, ih]

theorem Predicate.renderings_eq_map (place : Option Bool) (members : List Predicate) :
    Predicate.renderings bare place members =
      (members.filter (!·.isEmpty)).map (·.render bare place) := by
  induction members with
  | nil => rfl
  | cons p rest ih => cases empty : p.isEmpty <;> simp [Predicate.renderings, ih, empty]

theorem Join.renderings_eq_map (joins : List Join) :
    Join.renderings joins = joins.map (·.render) := by
  induction joins with
  | nil => rfl
  | cons j rest ih => simp [Join.renderings, ih]

theorem Cte.renderings_eq_map (ctes : List Cte) : Cte.renderings ctes = ctes.map (·.render) := by
  induction ctes with
  | nil => rfl
  | cons c rest ih => simp [Cte.renderings, ih]

theorem Assignment.renderings_eq_map (targetBare valueBare : List String)
    (list : List Assignment) :
    Assignment.renderings targetBare valueBare list =
      list.map (·.render targetBare valueBare) := by
  induction list with
  | nil => rfl
  | cons a rest ih => simp [Assignment.renderings, ih]

end Lists

/-- What can be appended to a renderer; `bare` holds the qualifiers that are left out, `place` says
whether a predicate stands in an outermost place. -/
inductive Fragment where
  | field (f : Field) (bare : List String)
  | predicate (p : Predicate) (bare : List String) (place : Option Bool)
  | join (j : Join)
  | query (q : Query)

namespace Fragment

def render : Fragment → Rendering
  | field f bare => f.render bare
  | predicate p bare place => p.render bare place
  | join j => j.render
  | query q => q.render

def script (d : Dialect) : Fragment → Script
  | field f bare => f.script d bare
  | predicate p bare place => p.script d bare place
  | join j => j.script d
  | query q => q.script d

end Fragment

namespace Renderer

/-- Appends a fragment; what is written before a fault stays. -/
def append (r : Renderer) (t : Fragment) : Renderer × Option Fault := t.render.on r

inductive Step where
  | push (text : String)
  | ident (name : String)
  | bind (v : Value)
  | bindShared (name : String) (v : Value)
  | append (t : Fragment)
  | outputs (fields : List Field) (bare : List String)
  | orderings (fields : List Field)

def Step.render : Step → Rendering
  | .push text => .text text
  | .ident name => .ident name
  | .bind v => .value v
  | .bindShared name v => .shared name v
  | .append t => t.render
  | .outputs fields bare => .separated ", " true (Field.renderOutputs bare fields)
  | .orderings fields => .separated ", " true (Field.renderOrderings fields)

def take (r : Renderer) (step : Step) : Renderer × Option Fault := step.render.on r

def run (r : Renderer) (steps : List Step) : Renderer := steps.foldl (fun r s => (r.take s).1) r

end Renderer

end SqlTree
