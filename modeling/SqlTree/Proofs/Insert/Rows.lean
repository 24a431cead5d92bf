import Mathlib
import SqlTree.Build.Select
import SqlTree.Proofs.Insert.Given
import SqlTree.Proofs.Renderer.Lists
import SqlTree.Proofs.Tree.Rendering

namespace SqlTree

namespace Field

variable {d : Dialect} {node : Node} {columns : List Field}

theorem name_of_columnName? {f : Field} {name : String} (named : f.expr.columnName? = some name) :
    f.name = name := by
  rcases f with ⟨expr, asName, direction, nulls⟩
  cases expr with
  | column table tableAlias own type => exact Option.some.inj named
  | proposed own => exact nomatch named
  | value v => exact nomatch named
  | shared own v => exact nomatch named
  | template format operands => exact nomatch named
  | scalar query => exact nomatch named

theorem columnNames_cons {c : Field} {first : Bool}
    (ok : (columnNames d node first (c :: columns)).fault = none) :
    ∃ text, c.expr.columnName? = some c.name ∧ Ident.write d c.name = .ok text ∧
      columnNames d node first (c :: columns) =
        .onlyIf (!first) (.text ", ") ++ .text text ++ columnNames d node false columns := by
  rw [columnNames] at ok ⊢
  have own := (Script.append_isOk ok).1
  cases column : c.expr.columnName? with
  | none =>
      rw [column] at own
      exact absurd own (Option.some_ne_none _)
  | some name =>
      obtain rfl := name_of_columnName? column
      simp only [column] at own ⊢
      have identified := (Script.append_isOk own).2
      cases spelled : Ident.write d c.name with
      | error refusal =>
          rw [Script.ident, spelled] at identified
          exact absurd identified (Option.some_ne_none _)
      | ok text =>
          refine ⟨text, trivial, rfl, ?_⟩
          rw [Script.ident, spelled]

end Field

namespace Insert

variable (d : Dialect) (i : Insert)

def opening : Script :=
  (match i.fault with
    | none => .empty
    | some fault => .failure (.malformed (.insert i.table.name) (.rows fault))) ++
  .checkReturning d (.insert i.table.name) i.returning ++
  .withClause i.ctes (Cte.scripts d i.ctes) ++
  .text (if d == .mysql && ignoresConflicts i.conflict then "INSERT IGNORE INTO "
    else "INSERT INTO ") ++
  (if d == .mysql then .tableName d i.table else .table d i.table)

def header : Script :=
  .onlyIf (!i.columns.isEmpty)
    (.text " " ++ .parens (Field.columnNames d (.insert i.table.name) true i.columns))

/-- What is inserted: the rows of a SELECT, the rows given, or a row of defaults. -/
def body : Script :=
  if i.source.isSome then Select.clause d i.source
  else if !i.rows.isEmpty then
    .text " VALUES " ++ .separated ", " (Field.rows d [i.table.qualifier] i.rows)
  else if !i.columns.isEmpty then .failure (.malformed (.insert i.table.name) .columnsWithoutValues)
  else .text (if d == .mysql then " () VALUES ()" else " DEFAULT VALUES")

def closing : Script :=
  Conflict.clause d i.table i.conflict ++
  .listClause " RETURNING " (Field.outputs d [i.table.qualifier] i.returning)

theorem script_eq : i.script d = i.opening d ++ i.header d ++ i.body d ++ i.closing d := by
  rcases i with ⟨ctes, table, columns, rows, source, conflict, returning, fault⟩
  simp only [Insert.script, closing, ← Script.append_assoc]
  rfl

variable {d : Dialect} {i : Insert}

/-- What is written for the row does not depend on when the columns were given: a row of values goes
by their count, and a row of settings has them still. -/
def Stays (columns : List Field) : List Field × Given → Prop
  | (_, .values _) => True
  | (own, .settings _) => own = columns

theorem Given.Fills.stays {columns own row : List Field} {g : Given} (fills : g.Fills own row)
    (stays : Stays columns (own, g)) (steady : own.length = columns.length) :
    g.Fills columns row := by
  cases g with
  | values list => exact ⟨fills.1, fills.2.trans steady⟩
  | settings list =>
      obtain rfl : own = columns := stays
      exact fills

def cats : List Call :=
  [.settings [.set (.bare "id") (.value (.int 1)), .set (.bare "name") (.value (.text "Tom"))],
    .conflict ⟨[], .nothing⟩,
    .settingsEach [[.set (.bare "name") (.shared "who" .null),
      .set (.bare "id") (.value (.int 2)), .set (.bare "id") (.value (.int 3))]],
    .columns [.bare "id", .bare "name"], .values [.raw "DEFAULT", .shared "who" .null],
    .returning [.bare "id"]]

end Insert

end SqlTree
