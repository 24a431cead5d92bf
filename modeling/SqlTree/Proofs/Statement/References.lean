import SqlTree.Build.Cte
import SqlTree.Proofs.Statement.Qualifiers
import SqlTree.Proofs.Tree.Unqualified
import SqlTree.Tree.Fields

namespace SqlTree

/-- Tables as they are described: by a name, then by schemas and aliases in any order. -/
inductive Table.Described : Table → Prop where
  | named (name : String) : Described (.named name)
  | inSchema {t : Table} (schema : String) : Described t → Described (t.inSchema schema)
  | aliased {t : Table} (name : String) : Described t → Described (t.aliased name)

namespace Table.Described

variable {t : Table}

theorem asName_ne (described : t.Described) : t.asName ≠ some "" := by
  induction described with
  | named name => exact (Option.some_ne_none "").symm
  | inSchema schema _ ih => exact ih
  | aliased name _ _ =>
      unfold Table.aliased
      by_cases cleared : name = ""
      · simp [cleared]
      · simp [cleared]

/-- A column stores no alias as an empty one, and still goes by the qualifier of its table. -/
theorem qualifier_column (described : t.Described) (name : String) (type : ColumnType) :
    (Field.column t name type).qualifier = t.qualifier := by
  show (if t.asName.getD "" = "" then t.name else t.asName.getD "") = t.asName.getD t.name
  cases given : t.asName with
  | none => rfl
  | some a =>
      have named : a ≠ "" := fun empty => described.asName_ne (given.trans (congrArg some empty))
      exact if_neg named

end Table.Described

/-- The fields that a source offers for a column of a name. -/
inductive Source.Offers : Source → String → Field → Prop where
  | table {t : Table} (described : t.Described) (name : String) (type : ColumnType) :
      Offers (.table t) name (.column t name type)
  | cte (c : Cte) (column : String) : Offers c.source column (c.field column)
  | subquery (q : Query) (asName column : String) :
      Offers (.subquery q asName) column (.qualified asName column)
  | output (q : Query) (asName : String) (projected : Field) :
      Offers (.subquery q asName) projected.outputName (Source.output asName projected)

namespace Source

/-- What stands before an identifier that nothing else follows: nothing, or text up to a point or to
the word that makes it an alias. -/
def Leads (before : String) : Prop :=
  before = "" ∨ ∃ front, before = front ++ "." ∨ before = front ++ " AS "

theorem Offers.qualifier_eq {source : Source} {column : String} {field : Field}
    (offers : source.Offers column field) : field.qualifier = source.qualifier := by
  cases offers with
  | table described column type => exact described.qualifier_column column type
  | cte | subquery | output => rfl

theorem Offers.script_eq {source : Source} {column : String} {field : Field}
    (offers : source.Offers column field) (d : Dialect) (bare : List String) :
    field.script d bare = .column d bare source.qualifier column := by
  rw [← offers.qualifier_eq]
  cases offers <;> rfl

theorem script_ends (source : Source) (d : Dialect) :
    ∃ front : Script, source.script d = front ++ .ident d source.qualifier ∧
      (front = .empty ∨ ∃ lead, front = lead ++ .text "." ∨ front = lead ++ .text " AS ") := by
  cases source with
  | table t =>
      rcases t with ⟨schema, name, _ | asName⟩
      · cases schema with
        | none => exact ⟨.empty, Script.append_empty _, .inl rfl⟩
        | some schema =>
            exact ⟨.ident d schema ++ .text ".", Script.append_empty _, .inr ⟨_, .inl rfl⟩⟩
      · exact ⟨Script.tableName d ⟨schema, name, some asName⟩ ++ .text " AS ",
          (Script.append_assoc _ _ _).symm, .inr ⟨_, .inr rfl⟩⟩
  | subquery q asName => exact ⟨.parens (q.script d) ++ .text " AS ", rfl, .inr ⟨_, .inr rfl⟩⟩
  | cte name asName =>
      cases asName with
      | none => exact ⟨.empty, Script.append_empty _, .inl rfl⟩
      | some asName =>
          exact ⟨.ident d name ++ .text " AS ", (Script.append_assoc _ _ _).symm,
            .inr ⟨_, .inr rfl⟩⟩

end Source

theorem Script.ident_written {d : Dialect} {name : String} (ok : (ident d name).fault = none) :
    ∃ id, Ident.write d name = .ok id ∧ ident d name = text id := by
  cases written : Ident.write d name with
  | error refusal =>
      rw [ident, written] at ok
      cases ok
  | ok id => exact ⟨id, rfl, by rw [ident, written]⟩

theorem Renderer.sql_leading (r : Renderer) {front : Script} (ok : front.fault = none)
    (leads : front = .empty ∨ ∃ lead, front = lead ++ .text "." ∨ front = lead ++ .text " AS ") :
    ∃ before, (r.write front).sql = r.sql ++ before ∧ Source.Leads before := by
  have behind (lead : Script) (word : String) (led : (lead ++ .text word).fault = none) :
      (r.write (lead ++ .text word)).sql = r.sql ++ (Mark.sql (r.marks lead.pieces) ++ word) := by
    rw [r.write_append (Script.append_isOk led).1, write_text, push, ← String.append_assoc]
    exact congrArg (· ++ word) (r.writePieces_sql lead.pieces)
  rcases leads with rfl | ⟨lead, rfl | rfl⟩
  · exact ⟨"", String.append_empty.symm, .inl rfl⟩
  · exact ⟨_, behind lead "." ok, .inr ⟨_, .inl rfl⟩⟩
  · exact ⟨_, behind lead " AS " ok, .inr ⟨_, .inr rfl⟩⟩

/-- Where a source and a column of it are written, the column stands behind the identifier with
which the source ends. -/
theorem Source.Offers.written {source : Source} {column : String} {field : Field}
    (offers : source.Offers column field) {d : Dialect} (bound : (source.script d).fault = none)
    (named : (field.script d []).fault = none) :
    ∃ id name, Ident.write d source.qualifier = .ok id ∧ Ident.write d column = .ok name ∧
      ∀ r : Renderer,
        (∃ before, (r.write (source.script d)).sql = r.sql ++ before ++ id ∧ Leads before) ∧
        r.write (field.script d []) = r.push (id ++ "." ++ name) := by
  obtain ⟨front, ends, leads⟩ := source.script_ends d
  rw [ends] at bound
  obtain ⟨led, last⟩ := Script.append_isOk bound
  obtain ⟨id, identifier, lastText⟩ := Script.ident_written last
  have some : source.qualifier ≠ "" := by
    intro empty
    rw [empty] at identifier
    cases identifier
  have behind : field.script d [] =
      .ident d source.qualifier ++ .text "." ++ .ident d column := by
    simp [offers.script_eq, Script.column, Script.onlyIf, some]
  rw [behind] at named
  obtain ⟨name, own, ownText⟩ := Script.ident_written (Script.append_isOk named).2
  refine ⟨id, name, identifier, own, fun r => ⟨?_, ?_⟩⟩
  · obtain ⟨before, text, lead⟩ := r.sql_leading led leads
    refine ⟨before, ?_, lead⟩
    rw [ends, lastText, r.write_append led, Renderer.write_text, Renderer.push, text]
  · rw [behind, lastText, ownText, r.write_append rfl, r.write_append rfl]
    simp only [Renderer.write_text, Renderer.push, String.append_assoc]

/-! ### Statements on a table -/

section Bare

variable (d : Dialect) (bare : List String)

mutual

theorem Expr.script_unqualified : ∀ e : Expr, (e.unqualified bare).script d bare = e.script d bare
  | .column table tableAlias name type => by
      rw [Expr.unqualified]
      split
      case isTrue among =>
        rw [Expr.script, Expr.script, Script.column_unqualified bare d _ name among]
        simp [Script.column, Expr.qualifier, Script.onlyIf]
      case isFalse => rfl
  | .proposed _ => rfl
  | .value _ => rfl
  | .shared _ _ => rfl
  | .template format operands => by
      rw [Expr.unqualified, Expr.script, Expr.script, Field.scripts_unqualifiedEach operands]
  | .scalar _ => rfl

theorem Field.script_unqualified : ∀ f : Field,
    (f.unqualified bare).script d bare = f.script d bare
  | ⟨expr, _, _, _⟩ => by
      rw [Field.unqualified, Field.script, Field.script, Expr.script_unqualified expr]

theorem Field.scripts_unqualifiedEach : ∀ fields : List Field,
    Field.scripts d bare (Field.unqualifiedEach bare fields) = Field.scripts d bare fields
  | [] => rfl
  | f :: rest => by
      rw [Field.unqualifiedEach, Field.scripts, Field.scripts, Field.script_unqualified f,
        Field.scripts_unqualifiedEach rest]

end

theorem Field.outputs_unqualifiedEach (fields : List Field) :
    Field.outputs d bare (Field.unqualifiedEach bare fields) = Field.outputs d bare fields := by
  induction fields with
  | nil => rfl
  | cons f rest ih =>
      have label : (f.unqualified bare).asName = f.asName := by
        cases f
        rfl
      rw [Field.unqualifiedEach, Field.outputs, Field.outputs, ih, f.script_unqualified, label]

theorem Field.isEmpty_unqualifiedEach (fields : List Field) :
    (Field.unqualifiedEach bare fields).isEmpty = fields.isEmpty := by
  cases fields <;> rfl

def Assignment.targetUnqualified : Assignment → Assignment
  | ⟨target, value⟩ => ⟨target.unqualified bare, value⟩

theorem Assignment.scripts_targetUnqualified (valueBare : List String) (list : List Assignment) :
    Assignment.scripts d bare valueBare (list.map (Assignment.targetUnqualified bare)) =
      Assignment.scripts d bare valueBare list := by
  rw [Assignment.scripts_eq_map, Assignment.scripts_eq_map, List.map_map]
  refine List.map_congr_left fun a _ => ?_
  rcases a with ⟨target, value⟩
  rw [Function.comp_apply, Assignment.targetUnqualified, Assignment.script, Assignment.script,
    target.script_unqualified]

def Conflict.targetsUnqualified : Conflict → Conflict
  | ⟨names, .nothing⟩ => ⟨names, .nothing⟩
  | ⟨names, .update assignments⟩ =>
      ⟨names, .update (assignments.map (Assignment.targetUnqualified bare))⟩

end Bare

theorem Conflict.clause_targetsUnqualified (d : Dialect) (table : Table) (c : Option Conflict) :
    Conflict.clause d table (c.map (Conflict.targetsUnqualified [table.qualifier])) =
      Conflict.clause d table c := by
  rcases c with _ | ⟨names, _ | list⟩
  · rfl
  · rfl
  · have updates := Assignment.scripts_targetUnqualified d [table.qualifier] [table.qualifier] list
    simp only [Option.map_some, Conflict.targetsUnqualified, Conflict.clause, Conflict.script,
      ConflictAction.scripts, updates]

namespace Query

/-- The statement with the columns of its table without their qualifier in what is assigned to,
unless MySQL updates several relations at once, and in `RETURNING`, unless an UPDATE reads other
relations. -/
def ownUnqualified (d : Dialect) : Query → Query
  | .select s => .select s
  | .insert i =>
      let own := [i.table.qualifier]
      .insert { i with
        conflict := i.conflict.map (Conflict.targetsUnqualified own)
        returning := Field.unqualifiedEach own i.returning }
  | .update u =>
      let own := [u.table.qualifier]
      .update { u with
        assignments := if d = .mysql ∧ u.readsOthers then u.assignments
          else u.assignments.map (Assignment.targetUnqualified own)
        returning := if u.readsOthers then u.returning
          else Field.unqualifiedEach own u.returning }
  | .delete q =>
      .delete { q with returning := Field.unqualifiedEach [q.table.qualifier] q.returning }

theorem script_ownUnqualified (d : Dialect) (q : Query) :
    (q.ownUnqualified d).script d = q.script d := by
  cases q with
  | select s => rfl
  | insert i =>
      have same : ignoresConflicts (i.conflict.map
          (Conflict.targetsUnqualified [i.table.qualifier])) = ignoresConflicts i.conflict := by
        rcases i.conflict with _ | ⟨names, _ | list⟩ <;> rfl
      simp only [ownUnqualified, script, Insert.script_eq, Insert.opening, Insert.header,
        Insert.body, Insert.closing, Script.checkReturning, Field.isEmpty_unqualifiedEach, same,
        Conflict.clause_targetsUnqualified, Field.outputs_unqualifiedEach]
  | update u =>
      rcases u with ⟨ctes, table, list, source, joins, conditions, returning⟩
      simp only [ownUnqualified, script, Update.readsOthers, Update.script, Script.checkReturning]
      -- with other relations in scope nothing is left out but in targets, and there not by MySQL
      by_cases others : (source.isSome || !joins.isEmpty) = true
      · by_cases mysql : d = .mysql
        · simp only [others, mysql, and_self, if_true]
        · simp only [others, mysql, false_and, if_false, if_true, List.isEmpty_map, beq_iff_eq,
            Assignment.scripts_targetUnqualified]
      · simp only [others, and_false, if_false, Bool.false_eq_true, List.isEmpty_map,
          Field.isEmpty_unqualifiedEach, Assignment.scripts_targetUnqualified,
          Field.outputs_unqualifiedEach]
  | delete q =>
      rcases q with ⟨ctes, table, conditions, returning, everyRow⟩
      simp only [ownUnqualified, script, Delete.script, Script.checkReturning,
        Field.isEmpty_unqualifiedEach, Field.outputs_unqualifiedEach]

end Query

theorem Table.Described.unqualified_column {t : Table} (described : t.Described) (column : String)
    (type : ColumnType) : (Field.column t column type).unqualified [t.qualifier] =
      .ofExpr (.column "" "" column type) := by
  have own : (Expr.column t.name (t.asName.getD "") column type).qualifier ∈ [t.qualifier] :=
    List.mem_singleton.mpr (described.qualifier_column column type)
  rw [Field.column, Field.ofExpr, Field.unqualified, Expr.unqualified, if_pos own, Field.ofExpr]

/-- Where a source is written in `FROM` or in a join, and a column of it is written, the column is
the identifier with which the text of the source ends, a point, and the column's own identifier; the
qualifier of the one is that of the other. A statement on a table leaves out the qualifier that the
columns of the table have: they stand alone in what is assigned to, but for MySQL where an UPDATE
reads other relations, and in `RETURNING` where no other relation is read. -/
theorem Source.fields_refer_to_source :
    (∀ (source : Source) (column : String) (field : Field), source.Offers column field →
      field.qualifier = source.qualifier ∧
      ∀ d : Dialect, (source.script d).fault = none → (field.script d []).fault = none →
        ∃ id name, Ident.write d source.qualifier = .ok id ∧ Ident.write d column = .ok name ∧
          ∀ r : Renderer,
            (∃ before, (r.write (source.script d)).sql = r.sql ++ before ++ id ∧ Leads before) ∧
            r.write (field.script d []) = r.push (id ++ "." ++ name)) ∧
    (∀ t : Table, t.Described → ∀ (column : String) (type : ColumnType) (d : Dialect),
      (Field.column t column type).unqualified [t.qualifier] =
          .ofExpr (.column "" "" column type) ∧
        (Field.column t column type).script d [t.qualifier] = .ident d column) ∧
    ∀ (d : Dialect) (q : Query), (q.ownUnqualified d).build d = q.build d := by
  refine ⟨fun source column field offers => ⟨offers.qualifier_eq, ?_⟩, ?_, ?_⟩
  · intro d bound named
    exact offers.written bound named
  · intro t described column type d
    refine ⟨described.unqualified_column column type, ?_⟩
    have offers : (Source.table t).Offers column (.column t column type) :=
      .table described column type
    have own : (Source.table t).qualifier ∈ [t.qualifier] := List.mem_cons_self
    rw [offers.script_eq, Script.column_unqualified _ d _ column own]
    exact Script.empty_append _
  · intro d q
    rw [Query.build_eq_script, Query.build_eq_script, q.script_ownUnqualified]

/-- A quote within an alias that was given before the schema, a recursive expression whose alias was
given, cleared and given again, and an UPDATE that sets a column of the one from the other. -/
theorem Source.fields_refer_to_source_quoted :
    let t := ((Table.named "items").aliased "a\"b").inSchema "app"
    let total := Field.column t "total" .number
    let tens := (Cte.recursive "tens" ["n"]).recursiveCalls [.asName "x", .asName "", .asName "t s"]
    let u : Query := .update
      { ctes := [], table := t, assignments := [⟨total, .template "? + ?" [total, tens.field "n"]⟩]
        source := some tens.source, joins := [], conditions := [], returning := [total] }
    (Source.table t).Offers "total" total ∧ tens.source.Offers "n" (tens.field "n") ∧
      ((Source.table t).script .postgres).fault = none ∧
      (total.script .postgres []).fault = none ∧
      (∃ id name, Ident.write .postgres "a\"b" = .ok id ∧ Ident.write .postgres "total" = .ok name ∧
        ∀ r : Renderer,
          (∃ before, (r.write ((Source.table t).script .postgres)).sql = r.sql ++ before ++ id ∧
            Leads before) ∧
          r.write (total.script .postgres []) = r.push (id ++ "." ++ name)) ∧
      t.Described ∧ total.script .postgres [t.qualifier] = .ident .postgres "total" ∧
      (u.ownUnqualified .postgres).build .postgres = u.build .postgres ∧
      (u.build .postgres).toOption.map Built.sql =
        some ("UPDATE app.items AS \"a\"\"b\" SET total = \"a\"\"b\".total + \"t s\".n " ++
          "FROM tens AS \"t s\" RETURNING \"a\"\"b\".total") := by
  intro t total tens u
  have described : t.Described := .inSchema "app" (.aliased "a\"b" (.named "items"))
  have offers : (Source.table t).Offers "total" total := .table described "total" .number
  have bound : ((Source.table t).script .postgres).fault = none := by decide +kernel
  have named : (total.script .postgres []).fault = none := by decide +kernel
  obtain ⟨sources, columns, statements⟩ := Source.fields_refer_to_source
  exact ⟨offers, .cte tens "n", bound, named,
    (sources (.table t) "total" total offers).2 .postgres bound named, described,
    (columns t described "total" .number .postgres).2, statements .postgres u, by decide +kernel⟩

end SqlTree
