import SqlTree.Build.Select
import SqlTree.Build.Update
import SqlTree.Proofs.Tree.Parts
import SqlTree.Proofs.Tree.Rendering

namespace SqlTree

namespace Part

/-- Parts that cannot be written, whatever stands around them. -/
inductive Malformed : Part → Prop
  | noInitial {c : Cte} {step : Option RecursiveStep} (body : c.body = .recursive none step) :
      Malformed (.cte c)
  | noStep {c : Cte} {initial : Option Query} (body : c.body = .recursive initial none) :
      Malformed (.cte c)
  | emptyList (field : Field) (negated : Bool) : Malformed (.predicate (.inList field [] negated))
  | unusedOperand {f : Field} {format : String} {operands : List Field}
      (expr : f.expr = .template format operands)
      (more : format.toList.count '?' < operands.length) : Malformed (.field f)
  | noFields {s : Select} (missing : s.fields = []) : Malformed (.query (.select s))
  | negativeLimit {s : Select} {n : Int64} (limit : s.limit = some n) (negative : n < 0) :
      Malformed (.query (.select s))
  | negativeOffset {s : Select} {n : Int64} (offset : s.offset = some n) (negative : n < 0) :
      Malformed (.query (.select s))
  | noAssignments {u : Update} (missing : u.assignments = []) : Malformed (.query (.update u))
  | rowFault {i : Insert} {fault : RowFault} (found : i.fault = some fault) :
      Malformed (.query (.insert i))
  | noConditions {q : Delete} (missing : Predicate.leavesOf q.conditions = [])
      (meant : q.everyRow = false) : Malformed (.query (.delete q))

variable {d : Dialect}

theorem select_checked {s : Select} (ok : (s.script d).fault = none) :
    s.fields ≠ [] ∧ (∀ n ∈ s.limit, 0 ≤ n) ∧ ∀ n ∈ s.offset, 0 ≤ n := by
  rcases s with ⟨ctes, distinct, fields, source, joins, conditions, grouping, having, ordering,
    limit, offset⟩
  simp only [Select.script, Script.fault_append, Option.or_eq_none_iff] at ok
  obtain ⟨⟨⟨⟨⟨⟨⟨⟨⟨⟨⟨⟨filled, bounded⟩, -⟩, -⟩, -⟩, -⟩, -⟩, -⟩, -⟩, -⟩, -⟩, -⟩, -⟩ := ok
  have some := Script.fault_require_iff.mp filled
  have bounds := Script.fault_require_iff.mp bounded
  simpa [Option.all_eq_true] using And.intro some bounds

theorem Malformed.not_written {part : Part} (bad : part.Malformed) : ¬part.Written d := by
  intro written
  cases bad with
  | @noInitial c step body =>
      rcases c with ⟨name, asName, columns, _, hint⟩
      obtain rfl := body
      have ok : (Cte.script d ⟨name, asName, columns, .recursive none step, hint⟩).fault = none :=
        written
      rw [Cte.script] at ok
      exact absurd (Script.fault_of_parens (Script.append_isOk ok).2) (Option.some_ne_none _)
  | @noStep c initial body =>
      rcases c with ⟨name, asName, columns, _, hint⟩
      obtain rfl := body
      have ok : (Cte.script d ⟨name, asName, columns, .recursive initial none, hint⟩).fault = none :=
        written
      rw [Cte.script] at ok
      have inside := Script.fault_of_parens (Script.append_isOk ok).2
      cases initial with
      | none => exact absurd inside (Option.some_ne_none _)
      | some query => exact absurd inside (Option.some_ne_none _)
  | emptyList field negated =>
      obtain ⟨bare, place, ok⟩ := written
      rw [Predicate.script] at ok
      exact absurd ok (Option.some_ne_none _)
  | @unusedOperand f format operands expr more =>
      obtain ⟨bare, ok⟩ := written
      rw [Field.script_eq, expr, Expr.script] at ok
      have fits := (Script.template_isOk ok).1
      rw [Field.scripts_eq_map, List.length_map] at fits
      omega
  | noFields missing => exact (select_checked written).1 missing
  | @negativeLimit s n limit negative =>
      have bound := (select_checked written).2.1 n limit
      exact Int64.not_le.mpr negative bound
  | @negativeOffset s n offset negative =>
      have bound := (select_checked written).2.2 n offset
      exact Int64.not_le.mpr negative bound
  | @noAssignments u missing =>
      rcases u with ⟨ctes, table, _, source, joins, conditions, returning⟩
      obtain rfl := missing
      have ok : (Update.script d ⟨ctes, table, [], source, joins, conditions, returning⟩).fault =
        none := written
      rw [Update.script] at ok
      exact absurd ok (Option.some_ne_none _)
  | @rowFault i fault found =>
      have ok : (i.script d).fault = none := written
      rw [Insert.script_eq, Insert.opening, found] at ok
      exact absurd ok (Option.some_ne_none _)
  | @noConditions q missing meant =>
      rcases q with ⟨ctes, table, conditions, returning, everyRow⟩
      obtain rfl : everyRow = false := meant
      have ok : (Delete.script d ⟨ctes, table, conditions, returning, false⟩).fault = none := written
      simp only [Delete.script, Script.fault_append, Option.or_eq_none_iff] at ok
      obtain ⟨⟨⟨⟨⟨⟨spared, -⟩, -⟩, -⟩, -⟩, -⟩, -⟩ := ok
      have empty : Predicate.allEmpty conditions = true := by
        have leafless := Predicate.isEmpty_eq (.group .and conditions false)
        rw [Predicate.isEmpty, Predicate.leaves] at leafless
        rw [leafless]
        exact List.isEmpty_iff.mpr missing
      have some := Script.fault_require_iff.mp spared
      rw [empty] at some
      exact Bool.false_ne_true some

end Part

namespace Query

/-- A statement does not build if anywhere in it, at any depth, there stands a malformed part. Only
what is not written at all is exempt, and that has no influence: the rows of an INSERT that has a
SELECT as well, and a conflict target where upserts have none. -/
theorem malformed_parts_found (d : Dialect) :
    (∀ (q : Query) (part : Part), Part.Within d (.query q) part → part.Malformed →
      ∃ e, q.build d = .error e) ∧
    (∀ (i : Insert) (rows : List (List Field)), i.source ≠ none →
      (insert { i with rows := rows }).build d = (insert i).build d) ∧
    ∀ (i : Insert) (c : Conflict) (target : List Field), i.conflict = some c →
      (insert { i with conflict := some { c with target := target } }).build .mysql =
        (insert i).build .mysql := by
  refine ⟨?_, ?_, ?_⟩
  · intro q part within bad
    cases built : q.build d with
    | error e => exact ⟨e, rfl⟩
    | ok b =>
        have written : Part.Written d (.query q) := (build_eq_ok.mp built).1
        exact absurd (within.written written) bad.not_written
  · intro i rows source
    have some : i.source.isSome = true := Option.isSome_iff_ne_none.mpr source
    have same : (insert { i with rows := rows }).script d = (insert i).script d := by
      simp only [script, Insert.script_eq]
      simp only [Insert.opening, Insert.header, Insert.body, Insert.closing, some, if_true]
    rw [build_eq_script, same, build_eq_script]
  · intro i c target conflict
    have same : (insert { i with conflict := some { c with target := target } }).script .mysql =
        (insert i).script .mysql := by
      rcases c with ⟨old, action⟩
      simp only [script, Insert.script_eq]
      simp only [Insert.opening, Insert.header, Insert.body, Insert.closing, conflict]
      cases action with
      | nothing => rfl
      | update assignments => rfl
    rw [build_eq_script, same, build_eq_script]

/-- A SELECT whose condition denies that a statement with an UPDATE without assignments in an operand
yields rows. -/
theorem malformed_parts_found_nested :
    let u := Update.ofTable (.named "cat")
    let q := Query.select { Select.ofFields [.bare "id"] with
      conditions := [.not (.group .or [.isNull (.bare "key") false,
        .existsRow (.select (Select.ofFields
          [.template "max(?, 1)" [.scalar (.update u)]])) true] false)] }
    Part.Within .postgres (.query q) (.query (.update u)) ∧
      Part.Malformed (.query (.update u)) ∧ ∃ e, q.build .postgres = .error e := by
  intro u q
  have within : Part.Within .postgres (.query q) (.query (.update u)) := by
    apply Relation.ReflTransGen.head (.tail _ (.head _))
    apply Relation.ReflTransGen.head (.head _)
    apply Relation.ReflTransGen.head (.tail _ (.head _))
    apply Relation.ReflTransGen.head (.head _)
    apply Relation.ReflTransGen.head (.head _)
    apply Relation.ReflTransGen.head (.head _)
    exact Relation.ReflTransGen.single (.head _)
  have bad : Part.Malformed (.query (.update u)) := .noAssignments rfl
  exact ⟨within, bad, (malformed_parts_found .postgres).1 q _ within bad⟩

end Query

end SqlTree
