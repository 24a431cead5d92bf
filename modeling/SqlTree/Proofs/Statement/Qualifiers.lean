import SqlTree.Proofs.Insert.Rows
import SqlTree.Proofs.Renderer.Congruence
import SqlTree.Proofs.Tree.Closed
import SqlTree.Proofs.Tree.Rendering

namespace SqlTree

namespace Script

/-- The same fault, and the same text and arguments behind whatever was written before. -/
structure Alike (a b : Script) : Prop where
  fault : a.fault = b.fault
  write : ∀ r : Renderer, r.write a = r.write b

namespace Alike

variable {a b c : Script}

theorem congruence : Congruence Alike where
  refl _ := ⟨rfl, fun _ => rfl⟩
  append {a b c d} first second := by
    constructor
    · rw [fault_append, fault_append, first.fault, second.fault]
    · intro r
      cases found : a.fault with
      | some fault =>
          have other : b.fault = some fault := first.fault ▸ found
          simp only [Renderer.write, pieces_append, isOk, found, other]
          exact first.write r
      | none =>
          have other : b.fault = none := first.fault ▸ found
          rw [r.write_append found, r.write_append other, first.write, second.write]

theorem refl (s : Script) : Alike s s := congruence.refl s

theorem trans (first : Alike a b) (second : Alike b c) : Alike a c :=
  ⟨first.fault.trans second.fault, fun r => (first.write r).trans (second.write r)⟩

theorem symm (same : Alike a b) : Alike b a := ⟨same.fault.symm, fun r => (same.write r).symm⟩

theorem build {d : Dialect} (same : Alike a b) : a.build d = b.build d := by
  rw [Script.build, Script.build, same.fault, same.write]

theorem text_append (s t : String) : Alike (text s ++ text t) (text (s ++ t)) := by
  refine ⟨rfl, fun r => ?_⟩
  rw [r.write_append rfl, Renderer.write_text, Renderer.write_text, Renderer.write_text,
    Renderer.push, Renderer.push, Renderer.push, String.append_assoc]

theorem fill_nil (format : List Char) :
    Alike (fill (slotTexts format) []) (text (String.ofList format)) := by
  induction format with
  | nil => exact refl _
  | cons c rest ih =>
      have joined : String.ofList (c :: rest) = String.ofList [c] ++ String.ofList rest := by
        rw [← String.ofList_append, List.singleton_append]
      rw [joined]
      by_cases slot : c = '?'
      · have sign : Alike (text "" ++ text "?") (text (String.ofList [c])) := by
          rw [slot]
          exact text_append "" "?"
        rw [slot, fill_open, ← slot]
        exact (congruence.append sign ih).trans (text_append _ _)
      · obtain ⟨first, behind, short, long⟩ := fill_char rest slot []
        have lead : Alike (text (String.ofList (c :: first)))
            (text (String.ofList [c]) ++ text (String.ofList first)) := by
          rw [← List.singleton_append, String.ofList_append]
          exact (text_append _ _).symm
        rw [short] at ih
        rw [long]
        apply (congruence.before lead behind).trans
        rw [append_assoc]
        exact (congruence.behind _ ih).trans (text_append _ _)

theorem raw (format : String) : Alike (template format []) (text format) := by
  have filled := fill_nil format.toList
  rw [String.ofList_toList] at filled
  rw [template_nil]
  exact filled

end Alike

end Script

def Ident.path (d : Dialect) (qualifier name : String) : Bool → Except Refusal String
  | false => write d name
  | true => do return (← write d qualifier) ++ "." ++ (← write d name)

/-- The qualifiers left out where columns are qualified or where they are not. -/
def Script.bareUnless (own : String) (qualified : Bool) : List String :=
  if qualified then [] else [own]

mutual

/-- The expression with every column of the table `own` outside subqueries replaced by its text. -/
def Expr.spelled (d : Dialect) (own : String) (qualified : Bool) : Expr → Expr
  | .column table tableAlias name type =>
      if (Expr.column table tableAlias name type).qualifier = own then
        match Ident.path d own name qualified with
        | .ok text => .template text []
        | .error _ => .column table tableAlias name type
      else .column table tableAlias name type
  | .proposed name => .proposed name
  | .value v => .value v
  | .shared name v => .shared name v
  | .template format operands => .template format (Field.spelledEach d own qualified operands)
  | .scalar query => .scalar query

def Field.spelled (d : Dialect) (own : String) (qualified : Bool) : Field → Field
  | ⟨expr, asName, direction, nulls⟩ => ⟨expr.spelled d own qualified, asName, direction, nulls⟩

def Field.spelledEach (d : Dialect) (own : String) (qualified : Bool) : List Field → List Field
  | [] => []
  | f :: rest => f.spelled d own qualified :: Field.spelledEach d own qualified rest

end

section Columns

variable (d : Dialect) (own : String) (qualified : Bool)

theorem Field.spelledEach_eq_map (fields : List Field) :
    Field.spelledEach d own qualified fields = fields.map (Field.spelled d own qualified) := by
  induction fields with
  | nil => rfl
  | cons f rest ih => rw [Field.spelledEach, ih, List.map_cons]

theorem Script.alike_column (name : String) {path : String}
    (written : Ident.path d own name qualified = .ok path) :
    Alike (.text path) (.column d (Script.bareUnless own qualified) own name) := by
  cases qualified with
  | false =>
      have bare : Script.column d [own] own name = .ident d name := by
        simp [Script.column, Script.onlyIf]
      rw [Script.bareUnless, if_neg Bool.false_ne_true, bare, ident,
        show Ident.write d name = .ok path from written]
      exact .refl _
  | true =>
      cases outer : Ident.write d own with
      | error refusal =>
          rw [Ident.path, outer] at written
          cases written
      | ok front =>
          cases inner : Ident.write d name with
          | error refusal =>
              rw [Ident.path, outer, inner] at written
              cases written
          | ok back =>
              rw [Ident.path, outer, inner] at written
              obtain rfl : front ++ "." ++ back = path := Except.ok.inj written
              have named : own ≠ "" := by
                rintro rfl
                cases outer
              rw [Script.bareUnless, if_pos rfl, Script.column, ident, ident, outer, inner]
              simp only [named, ne_eq, not_false_eq_true, decide_true, List.contains_nil,
                Bool.not_false, Bool.and_true, Script.onlyIf, if_true]
              exact ((Alike.congruence.before (.text_append _ _) _).trans (.text_append _ _)).symm

mutual

theorem Expr.alike_spelled : ∀ e : Expr,
    Script.Alike ((e.spelled d own qualified).script d (Script.bareUnless own qualified))
      (e.script d (Script.bareUnless own qualified))
  | .column table tableAlias name type => by
      rw [Expr.spelled]
      by_cases same : (Expr.column table tableAlias name type).qualifier = own
      · rw [if_pos same]
        cases written : Ident.path d own name qualified with
        | error refusal => exact .refl _
        | ok path =>
            simp only [Expr.script, Field.scripts, same]
            exact (Script.Alike.raw path).trans (Script.alike_column d own qualified name written)
      · rw [if_neg same]
        exact .refl _
  | .proposed _ => .refl _
  | .value _ => .refl _
  | .shared _ _ => .refl _
  | .template format operands => by
      rw [Expr.spelled, Expr.script, Expr.script]
      exact Script.Alike.congruence.template format (Field.alike_spelledEach operands)
  | .scalar _ => .refl _

theorem Field.alike_spelled : ∀ f : Field,
    Script.Alike ((f.spelled d own qualified).script d (Script.bareUnless own qualified))
      (f.script d (Script.bareUnless own qualified))
  | ⟨expr, _, _, _⟩ => by
      rw [Field.spelled, Field.script, Field.script]
      exact Expr.alike_spelled expr

theorem Field.alike_spelledEach : ∀ fields : List Field,
    List.Forall₂ Script.Alike
      (Field.scripts d (Script.bareUnless own qualified) (Field.spelledEach d own qualified fields))
      (Field.scripts d (Script.bareUnless own qualified) fields)
  | [] => .nil
  | f :: rest => .cons (Field.alike_spelled f) (Field.alike_spelledEach rest)

end

end Columns

def Assignment.spelled (d : Dialect) (own : String) (qualified : Bool) : Assignment → Assignment
  | ⟨target, value⟩ => ⟨target, value.spelled d own qualified⟩

def Conflict.spelled (d : Dialect) (own : String) (qualified : Bool) : Conflict → Conflict
  | ⟨target, .nothing⟩ => ⟨target, .nothing⟩
  | ⟨target, .update assignments⟩ =>
      ⟨target, .update (assignments.map (Assignment.spelled d own qualified))⟩

def Update.readsOthers (u : Update) : Bool := u.source.isSome || !u.joins.isEmpty

/-- The statement with every column of its table outside subqueries replaced by its text: behind the
qualifier in the values and in `RETURNING` of an UPDATE that reads another relation, the name alone in
any other UPDATE, in the rows and in `RETURNING` of an INSERT and in `RETURNING` of a DELETE. For the
values of an upsert `upserts` says which. -/
def Query.spelled (d : Dialect) (upserts : Bool) : Query → Query
  | .select s => .select s
  | .insert i =>
      let own := i.table.qualifier
      .insert { i with
        rows := i.rows.map (Field.spelledEach d own false)
        conflict := i.conflict.map (Conflict.spelled d own upserts)
        returning := Field.spelledEach d own false i.returning }
  | .update u =>
      let own := u.table.qualifier
      .update { u with
        assignments := u.assignments.map (Assignment.spelled d own u.readsOthers)
        returning := Field.spelledEach d own u.readsOthers u.returning }
  | .delete q =>
      .delete { q with returning := Field.spelledEach d q.table.qualifier false q.returning }

section Statements

variable (d : Dialect) (own : String) (qualified : Bool)

@[simp] theorem Field.isEmpty_spelledEach (fields : List Field) :
    (Field.spelledEach d own qualified fields).isEmpty = fields.isEmpty := by
  rw [Field.spelledEach_eq_map, List.isEmpty_map]

theorem Field.alike_outputs (fields : List Field) :
    List.Forall₂ Script.Alike
      (Field.outputs d (Script.bareUnless own qualified) (Field.spelledEach d own qualified fields))
      (Field.outputs d (Script.bareUnless own qualified) fields) := by
  rw [Field.spelledEach_eq_map, Field.outputs_eq_map, Field.outputs_eq_map, List.map_map]
  apply Script.Congruence.map
  intro f _
  have label : (f.spelled d own qualified).asName = f.asName := by
    cases f
    rfl
  rw [Function.comp_apply, label]
  exact Script.Alike.congruence.before (Field.alike_spelled d own qualified f) _

theorem Field.alike_rows (rows : List (List Field)) :
    List.Forall₂ Script.Alike
      (Field.rows d (Script.bareUnless own qualified)
        (rows.map (Field.spelledEach d own qualified)))
      (Field.rows d (Script.bareUnless own qualified) rows) := by
  rw [Field.rows_eq_map, Field.rows_eq_map, List.map_map]
  apply Script.Congruence.map
  intro row _
  have fields := Field.alike_spelledEach d own qualified row
  rw [Field.scripts_eq_map, Field.scripts_eq_map] at fields
  exact Script.Alike.congruence.parens (Script.Alike.congruence.separated ", " fields)

theorem Assignment.alike_scripts (targetBare : List String) (list : List Assignment) :
    List.Forall₂ Script.Alike
      (Assignment.scripts d targetBare (Script.bareUnless own qualified)
        (list.map (Assignment.spelled d own qualified)))
      (Assignment.scripts d targetBare (Script.bareUnless own qualified) list) := by
  rw [Assignment.scripts_eq_map, Assignment.scripts_eq_map, List.map_map]
  apply Script.Congruence.map
  intro a _
  rcases a with ⟨target, value⟩
  exact Script.Alike.congruence.behind _ (Field.alike_spelled d own qualified value)

theorem Conflict.alike_clause (table : Table) (c : Option Conflict) :
    Script.Alike (Conflict.clause d table (c.map (Conflict.spelled d table.qualifier false)))
      (Conflict.clause d table c) := by
  rcases c with _ | ⟨target, _ | list⟩
  · exact .refl _
  · exact .refl _
  have updates := Assignment.alike_scripts d table.qualifier false [table.qualifier] list
  have none : (Assignment.scripts d [table.qualifier] [table.qualifier]
      (list.map (Assignment.spelled d table.qualifier false))).isEmpty =
        (Assignment.scripts d [table.qualifier] [table.qualifier] list).isEmpty := by
    rw [Assignment.scripts_eq_map, Assignment.scripts_eq_map, List.isEmpty_map, List.isEmpty_map,
      List.isEmpty_map]
  have set := Script.Alike.congruence.separated ", " updates
  simp only [Option.map_some, Conflict.spelled, Conflict.clause, Conflict.script,
    ConflictAction.scripts, none]
  split
  · exact Script.Alike.congruence.behind _ (Script.Alike.congruence.behind _
      (Script.Alike.congruence.behind _ set))
  · exact Script.Alike.congruence.behind _ set

end Statements

namespace Query

variable (d : Dialect) (q : Query)

theorem alike_spelled : Script.Alike ((q.spelled d false).script d) (q.script d) := by
  have kept := Script.Alike.congruence
  cases q with
  | select s => exact .refl _
  | insert i =>
      have same : ignoresConflicts (i.conflict.map (Conflict.spelled d i.table.qualifier false)) =
          ignoresConflicts i.conflict := by
        rcases i.conflict with _ | ⟨target, _ | list⟩ <;> rfl
      simp only [spelled, script, Insert.script_eq, Insert.opening, Insert.header, Insert.body,
        Insert.closing, Script.checkReturning, Field.isEmpty_spelledEach, List.isEmpty_map, same]
      apply kept.append
      · apply kept.behind
        split
        · exact .refl _
        · split
          · exact kept.behind _ (kept.separated ", " (Field.alike_rows d _ false i.rows))
          · exact .refl _
      · exact kept.append (Conflict.alike_clause d i.table i.conflict)
          (kept.listClause " RETURNING " (Field.alike_outputs d _ false i.returning))
  | update u =>
      rcases u with ⟨ctes, table, assignments, source, joins, conditions, returning⟩
      simp only [spelled, script, Update.script, Script.checkReturning, Field.isEmpty_spelledEach,
        List.isEmpty_map]
      apply kept.append
      · apply kept.before
        apply kept.behind
        split
        · exact kept.behind _ (kept.separated ", " (Assignment.alike_scripts d _ _ _ assignments))
        · apply kept.before
          apply kept.before
          apply kept.before
          exact kept.behind _ (kept.separated ", " (Assignment.alike_scripts d _ _ _ assignments))
      · exact kept.listClause " RETURNING " (Field.alike_outputs d _ _ returning)
  | delete q =>
      rcases q with ⟨ctes, table, conditions, returning, everyRow⟩
      simp only [spelled, script, Delete.script, Script.checkReturning, Field.isEmpty_spelledEach]
      exact kept.behind _
        (kept.listClause " RETURNING " (Field.alike_outputs d _ false returning))

/-- In the values that a statement assigns and in what it returns, outside subqueries, a column of its
table is written as its name behind the qualifier where another relation is in scope, and as its name
alone where there is none. -/
theorem own_columns_spelled : (q.spelled d false).build d = q.build d := by
  rw [build_eq_script, build_eq_script, (alike_spelled d q).build]

/-- The row that an upsert proposes is in scope as well, but the values of the upsert are written
without the qualifier: this one names the proposed count and, without saying of which row, a count. -/
theorem upsert_values_unqualified :
    let count := Field.column (.named "counters") "n" .number
    let upsert : Query := .insert { Insert.into (.named "counters") with
      columns := [.bare "id", .bare "n"]
      rows := [[.value (.int 1), .value (.int 1)]]
      conflict := some ⟨[.bare "id"],
        .update [⟨count, .template "? + ?" [count, .proposed count]⟩]⟩ }
    (upsert.build .postgres).toOption.map Built.sql =
        some ("INSERT INTO counters (id, n) VALUES ($1, $2) " ++
          "ON CONFLICT (id) DO UPDATE SET n = n + EXCLUDED.n") ∧
      ((upsert.spelled .postgres true).build .postgres).toOption.map Built.sql =
        some ("INSERT INTO counters (id, n) VALUES ($1, $2) " ++
          "ON CONFLICT (id) DO UPDATE SET n = counters.n + EXCLUDED.n") := by
  decide +kernel

end Query

end SqlTree
