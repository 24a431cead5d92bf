import SqlTree.Build.Delete
import SqlTree.Proofs.Statement.Conditions

namespace SqlTree.Delete

open Condition Predicate

def Call.everyRow? : Call → Option Bool
  | .everyRow allow => some allow
  | .ctes _ | .conditions _ | .returning _ => none

def Call.given : Call → List Predicate
  | .conditions list => list
  | .ctes _ | .everyRow _ | .returning _ => []

/-- The last of the calls that say whether every row may be deleted; none does so by default. -/
def allowed (list : List Call) : Bool := (list.filterMap Call.everyRow?).getLast?.getD false

section Calls

variable (q : Delete)

theorem call_everyRow (c : Call) : (q.call c).everyRow = c.everyRow?.getD q.everyRow := by
  cases c <;> rfl

theorem call_conditions (c : Call) : (q.call c).conditions = q.conditions ++ c.given := by
  cases c with
  | conditions list => rfl
  | ctes list => exact (List.append_nil _).symm
  | everyRow allow => exact (List.append_nil _).symm
  | returning list => exact (List.append_nil _).symm

theorem call_table (c : Call) : (q.call c).table = q.table := by cases c <;> rfl

variable (list : List Call)

theorem calls_everyRow :
    (q.calls list).everyRow = (list.filterMap Call.everyRow?).getLast?.getD q.everyRow := by
  induction list generalizing q with
  | nil => rfl
  | cons c rest ih =>
      rw [calls, List.foldl_cons, ← calls, ih, call_everyRow]
      cases own : c.everyRow? with
      | none => simp [own]
      | some allow =>
          rw [List.filterMap_cons_some own, List.getLast?_cons]
          cases (rest.filterMap Call.everyRow?).getLast? <;> rfl

theorem calls_conditions : (q.calls list).conditions = q.conditions ++ list.flatMap Call.given := by
  induction list generalizing q with
  | nil => exact (List.append_nil _).symm
  | cons c rest ih =>
      rw [calls, List.foldl_cons, ← calls, ih, call_conditions, List.flatMap_cons,
        List.append_assoc]

theorem calls_table : (q.calls list).table = q.table := by
  induction list generalizing q with
  | nil => rfl
  | cons c rest ih => rw [calls, List.foldl_cons, ← calls, ih, call_table]

end Calls

variable {d : Dialect} {q : Delete}

theorem build_refused (meant : q.everyRow = false) (none : leavesOf q.conditions = []) :
    (Query.delete q).build d =
      .error (.render ("DELETE FROM `" ++ q.table.name ++ "`") Cause.noConditions.message) := by
  have empty : allEmpty q.conditions = true := by
    have whole := isEmpty_eq (.group .and q.conditions true)
    rw [isEmpty, leaves, none] at whole
    exact whole
  have first : (q.script d).fault = some (.malformed (.delete q.table.name) .noConditions) := by
    rw [script_eq, Section.scripts, sections, opening, meant, empty]
    rfl
  exact Query.build_eq_error.mpr ⟨_, first, rfl⟩

theorem written_conditions (some : leavesOf q.conditions ≠ []) (ok : (q.script d).fault = none)
    (start : Renderer) :
    let r := start.write (q.opening d)
    let after := r.write (Section.script d (.clause " WHERE " q.conditions))
    ∃ body : List Char,
      (start.write (q.script d)).sql.toList =
        r.sql.toList ++ (" WHERE ".toList ++ body) ++ after.written (q.closing d) ∧
      Composed (r.writtenEach ((leavesOf q.conditions).map (·.script d [] none))) body ∧
      ∀ leaf ∈ leavesOf q.conditions,
        leaf.isLeaf = true ∧ (leaf.script d [] none).fault = none := by
  intro r after
  have whole : q.script d = q.opening d ++ (Section.script d (.clause " WHERE " q.conditions) ++
      (q.closing d ++ .empty)) := q.script_eq d
  rw [Script.append_empty] at whole
  rw [whole] at ok
  obtain ⟨okOpening, okBehind⟩ := Script.append_isOk ok
  obtain ⟨okClause, -⟩ := Script.append_isOk okBehind
  obtain ⟨inside, clause⟩ := written_clause " WHERE " some okClause r
  refine ⟨_, ?_, (composes (.group .and q.conditions true) none some inside).text r,
    leaves_isOk (.group .and q.conditions true) none inside⟩
  calc
    (start.write (q.script d)).sql.toList = (after.write (q.closing d)).sql.toList := by
      rw [whole, start.write_append okOpening, Renderer.write_append _ okClause]
    _ = r.sql.toList ++ r.written (Section.script d (.clause " WHERE " q.conditions)) ++
          after.written (q.closing d) := by
      rw [Renderer.write_sql, Renderer.write_sql]
    _ = _ := by
      rw [Section.script, clause]

/-- A DELETE is built by any calls, in any dialect. If the last setting, or the default, does not
allow every row to be deleted and the conditions hold no leaf at any depth, it is refused. If it is
built and there is a leaf, its conditions are written behind the table, put together from the texts
of all leaves in the order in which they were given. -/
theorem missing_conditions_refused (table : Table) (list : List Call) (d : Dialect) :
    let q := (ofTable table).calls list
    let given := leavesOf (list.flatMap Call.given)
    (allowed list = false → given = [] → (Query.delete q).build d =
      .error (.render ("DELETE FROM `" ++ table.name ++ "`")
        "no WHERE conditions; call allow_delete_all(true) to delete every row")) ∧
    ∀ b, (Query.delete q).build d = .ok b → given ≠ [] →
      let r := (Renderer.new d).write (q.opening d)
      let after := r.write (Section.script d (.clause " WHERE " q.conditions))
      ∃ body : List Char,
        b.sql.toList = r.sql.toList ++ (" WHERE ".toList ++ body) ++ after.written (q.closing d) ∧
        Composed (r.writtenEach (given.map (·.script d [] none))) body ∧
        ∀ leaf ∈ given, leaf.isLeaf = true ∧ (leaf.script d [] none).fault = none := by
  intro q given
  have listed : leavesOf q.conditions = given :=
    congrArg leavesOf (calls_conditions (ofTable table) list)
  have named : q.table = table := calls_table (ofTable table) list
  rw [← listed, ← named]
  constructor
  · intro refused none
    have meant : q.everyRow = false := (calls_everyRow (ofTable table) list).trans refused
    exact build_refused meant none
  · intro b built some
    obtain ⟨ok, rfl⟩ := Query.build_eq_ok.mp built
    exact written_conditions some ok (Renderer.new d)

def leafless : List Call :=
  [.everyRow true,
    .conditions [.not (.group .or [.group .and [] false] true), .group .and [] false],
    .everyRow false, .conditions []]

def leafy : List Call :=
  leafless ++
    [.conditions [.not (.group .or [.isNull (.bare "name") false, .group .and [] false] false)],
      .returning [.bare "id"],
      .conditions [.group .or [.compare (.bare "id") .eq (.value (.int 1)),
        .holds (.raw "sleepy")] false]]

theorem missing_conditions_refused_cats :
    let sql := "DELETE FROM cat WHERE NOT (name IS NULL) AND (id = $1 OR sleepy) RETURNING id"
    allowed leafless = false ∧ leavesOf (leafless.flatMap Call.given) = [] ∧
      (∀ d, (Query.delete ((ofTable (.named "cat")).calls leafless)).build d =
        .error (.render "DELETE FROM `cat`"
          "no WHERE conditions; call allow_delete_all(true) to delete every row")) ∧
      (Query.delete ((ofTable (.named "cat")).calls leafy)).build .postgres =
        .ok ⟨sql, [.int 1]⟩ ∧
      ∃ body, Composed ["name IS NULL".toList, "id = $1".toList, "sleepy".toList] body ∧
        sql.toList = "DELETE FROM cat".toList ++ (" WHERE ".toList ++ body) ++
          " RETURNING id".toList := by
  intro sql
  have refused : allowed leafless = false := rfl
  have none : leavesOf (leafless.flatMap Call.given) = [] := by cbv
  have built : (Query.delete ((ofTable (.named "cat")).calls leafy)).build .postgres =
      .ok ⟨sql, [.int 1]⟩ := by cbv
  have some : leavesOf (leafy.flatMap Call.given) ≠ [] := by
    simp [leafy, leafless, Call.given, leavesOf, leaves]
  have front : ((Renderer.new .postgres).write
      (((ofTable (.named "cat")).calls leafy).opening .postgres)).sql.toList =
        "DELETE FROM cat".toList := by decide +kernel
  have texts : ((Renderer.new .postgres).write
      (((ofTable (.named "cat")).calls leafy).opening .postgres)).writtenEach
        ((leavesOf (leafy.flatMap Call.given)).map (·.script .postgres [] .none)) =
      ["name IS NULL".toList, "id = $1".toList, "sleepy".toList] := by decide +kernel
  have behind : (((Renderer.new .postgres).write
      (((ofTable (.named "cat")).calls leafy).opening .postgres)).write
        (Section.script .postgres
          (.clause " WHERE " ((ofTable (.named "cat")).calls leafy).conditions))).written
      (((ofTable (.named "cat")).calls leafy).closing .postgres) = " RETURNING id".toList := by
    decide +kernel
  obtain ⟨body, text, composed, -⟩ :=
    (missing_conditions_refused (.named "cat") leafy .postgres).2 _ built some
  rw [front, behind] at text
  rw [texts] at composed
  refine ⟨refused, none, fun d => ?_, built, body, composed, text⟩
  exact (missing_conditions_refused (.named "cat") leafless d).1 refused none

end SqlTree.Delete
