import SqlTree.Build.Select
import SqlTree.Proofs.Insert.Rows
import SqlTree.Proofs.Tree.Items

namespace SqlTree

namespace Query

def keyword : Query → String
  | select s => if s.distinct then "SELECT DISTINCT " else "SELECT "
  | insert _ | update _ | delete _ => " RETURNING "

def outputBare : Query → List String
  | select _ => []
  | insert i => [i.table.qualifier]
  | update u => if u.source.isSome || !u.joins.isEmpty then [] else [u.table.qualifier]
  | delete d => [d.table.qualifier]

def outputs (d : Dialect) (q : Query) : List Script := Field.outputs d q.outputBare q.projection

def opening (d : Dialect) : Query → Script
  | select s =>
      let node := Node.select (.of .select (s.source.map Source.name))
      .require (!s.fields.isEmpty) (.malformed node .noFields) ++
      .require (s.limit.all (0 ≤ ·) && s.offset.all (0 ≤ ·)) (.malformed node .negativeBound) ++
      .withClause s.ctes (Cte.scripts d s.ctes)
  | insert i =>
      i.opening d ++ i.header d ++ i.body d ++ Conflict.clause d i.table i.conflict
  | update u =>
      let node := Node.update u.table.name
      let own := [u.table.qualifier]
      let shared := if u.source.isSome || !u.joins.isEmpty then [] else own
      .require (!u.assignments.isEmpty) (.malformed node .noAssignments) ++
      .checkReturning d node u.returning ++
      .withClause u.ctes (Cte.scripts d u.ctes) ++
      .text "UPDATE " ++ .table d u.table ++
      (if d == .mysql then
        Source.clause d ", " u.source ++ .joinsClause (Join.scripts d u.joins) ++
        .text " SET " ++ .separated ", " (Assignment.scripts d shared shared u.assignments)
      else
        .text " SET " ++ .separated ", " (Assignment.scripts d own shared u.assignments) ++
        Source.clause d " FROM " u.source ++
        .require (u.source.isSome || u.joins.isEmpty) (.malformed node .joinsWithoutSource) ++
        .joinsClause (Join.scripts d u.joins)) ++
      .conditions " WHERE "
        (Predicate.scripts d [] (Predicate.memberPlace true u.conditions) u.conditions)
  | delete q =>
      let node := Node.delete q.table.name
      .require (q.everyRow || !Predicate.allEmpty q.conditions) (.malformed node .noConditions) ++
      .checkReturning d node q.returning ++
      .withClause q.ctes (Cte.scripts d q.ctes) ++
      .text "DELETE FROM " ++ .table d q.table ++
      .conditions " WHERE "
        (Predicate.scripts d [] (Predicate.memberPlace true q.conditions) q.conditions)

def closing (d : Dialect) : Query → Script
  | select s =>
      Source.clause d " FROM " s.source ++
      .require (s.source.isSome || s.joins.isEmpty)
        (.malformed (.select (.of .select (s.source.map Source.name))) .joinsWithoutSource) ++
      .joinsClause (Join.scripts d s.joins) ++
      .conditions " WHERE "
        (Predicate.scripts d [] (Predicate.memberPlace true s.conditions) s.conditions) ++
      .listClause " GROUP BY " (Field.scripts d [] s.grouping) ++
      .conditions " HAVING "
        (Predicate.scripts d [] (Predicate.memberPlace true s.having) s.having) ++
      .listClause " ORDER BY " (Field.orderings d s.ordering) ++
      .bounds d s.limit s.offset
  | insert _ | update _ | delete _ => .empty

theorem script_eq {d : Dialect} {q : Query} (filled : q.projection ≠ []) :
    q.script d =
      q.opening d ++ .text q.keyword ++ .separated ", " (q.outputs d) ++ q.closing d := by
  have returning {bare : List String} {list : List Field} (filled : list ≠ []) (front : Script) :
      front ++ .listClause " RETURNING " (Field.outputs d bare list) =
        front ++ .text " RETURNING " ++ .separated ", " (Field.outputs d bare list) ++ .empty := by
    have some : (Field.outputs d bare list).isEmpty = false := by
      simpa [Field.outputs_eq_map] using filled
    rw [Script.listClause, some, Script.append_empty, Script.append_assoc]
    rfl
  cases q with
  | select s =>
      rcases s with ⟨ctes, distinct, fields, source, joins, conditions, grouping, having, ordering,
        limit, offset⟩
      simp only [script, Select.script, opening, closing, keyword, outputs, outputBare, projection,
        ← Script.append_assoc]
  | insert i =>
      rw [script, Insert.script_eq, Insert.closing, ← Script.append_assoc]
      exact returning filled _
  | update u =>
      rcases u with ⟨ctes, table, assignments, source, joins, conditions, list⟩
      rw [script, Update.script]
      exact returning filled _
  | delete q =>
      rcases q with ⟨ctes, table, conditions, list, everyRow⟩
      rw [script, Delete.script]
      exact returning filled _

def outputTexts (d : Dialect) (q : Query) : List (List Char) :=
  ((Renderer.new d).write (q.opening d)).writtenEach (q.outputs d)

theorem items_of_known {d : Dialect} {bare : List String} {fields : List Field} {r : Renderer}
    (each : ∀ f ∈ fields, f.Each TextRule.closed.everywhere)
    (known : ∀ f ∈ fields, f.expr.hasUnknownWidth = false)
    (operands : ∀ p ∈ fields.zip (r.writtenEach (Field.outputs d bare fields)),
      p.1.expr.hasOperands = true → Text.Item p.2)
    (ok : ∀ s ∈ Field.outputs d bare fields, s.fault = none) :
    ∀ t ∈ r.writtenEach (Field.outputs d bare fields), Text.Closed t ∧ Text.Item t := by
  induction fields generalizing r with
  | nil => exact List.forall_mem_nil _
  | cons f rest ih =>
      obtain ⟨ownEach, othersEach⟩ := List.forall_mem_cons.mp each
      obtain ⟨ownKnown, othersKnown⟩ := List.forall_mem_cons.mp known
      obtain ⟨ownOk, othersOk⟩ := List.forall_mem_cons.mp ok
      obtain ⟨ownOperands, othersOperands⟩ := List.forall_mem_cons.mp operands
      have fits := (closed_layout d).hereditary.of_field f ownEach
      have closed : (f.script d bare ++ .asClause d f.asName).Closed :=
        (closed_layout d).append (fits.script bare) ((closed_layout d).asClause f.asName fits.asName)
      have item : Text.Item (r.written (f.script d bare ++ .asClause d f.asName)) := by
        cases plain : f.expr.hasOperands with
        | true => exact ownOperands plain
        | false => exact Field.item_of_known ownEach ownKnown plain ownOk r
      exact List.forall_mem_cons.mpr
        ⟨⟨closed ownOk r, item⟩, ih othersEach othersKnown othersOperands othersOk⟩

theorem projection_of_width {q : Query} {n : Nat} (width : q.width = some n) :
    q.projection.length = n ∧ q.projection ≠ [] ∧
      ∀ s, q = .select s → ∀ f ∈ q.projection, f.expr.hasUnknownWidth = false := by
  have counted {list : List Field}
      (own : (if list.isEmpty then none else some list.length) = some n) :
      list.length = n ∧ list ≠ [] := by
    split at own
    · exact nomatch own
    case isFalse filled => exact ⟨Option.some.inj own, by simpa using filled⟩
  cases q with
  | select s =>
      rw [Query.width] at width
      split at width
      · exact nomatch width
      case isFalse known =>
        simp only [Bool.or_eq_true, List.isEmpty_iff, List.any_eq_true, not_or, not_exists, not_and,
          Bool.not_eq_true] at known
        exact ⟨Option.some.inj width, known.1, fun _ _ => known.2⟩
  | insert i =>
      obtain ⟨length, filled⟩ := counted width
      exact ⟨length, filled, fun _ other => nomatch other⟩
  | update u =>
      obtain ⟨length, filled⟩ := counted width
      exact ⟨length, filled, fun _ other => nomatch other⟩
  | delete q =>
      obtain ⟨length, filled⟩ := counted width
      exact ⟨length, filled, fun _ other => nomatch other⟩

theorem items_of_texts {texts : List (List Char)} (filled : texts ≠ [])
    (each : ∀ t ∈ texts, Text.Closed t ∧ Text.Item t) :
    (Text.items .outer (Text.commaSeparated texts)).length = texts.length ∧
      ∀ item ∈ Text.items .outer (Text.commaSeparated texts), ¬Text.Starred item := by
  obtain ⟨first, rest, rfl⟩ := List.exists_cons_of_ne_nil filled
  rw [Text.items_commaSeparated (fun t member => (each t member).1)
    (fun t member => (each t member).2.1)]
  obtain ⟨own, others⟩ := List.forall_mem_cons.mp each
  refine ⟨by simp, List.forall_mem_cons.mpr ⟨own.2.2, ?_⟩⟩
  intro item member
  obtain ⟨t, present, rfl⟩ := List.mem_map.mp member
  exact fun starred => (others t present).2.2 (Text.starred_blank_cons.mp starred)

/-- The text of a statement that puts out columns, with their list between keyword and rest. -/
theorem sql_of_projection {d : Dialect} {q : Query} {b : Built} (filled : q.projection ≠ [])
    (built : q.build d = .ok b) :
    (∀ s ∈ q.outputs d, s.fault = none) ∧
      ∃ r : Renderer, b.sql.toList = ((Renderer.new d).write (q.opening d)).sql.toList ++
        q.keyword.toList ++ Text.commaSeparated (q.outputTexts d) ++ r.written (q.closing d) := by
  obtain ⟨ok, written⟩ := build_eq_ok.mp built
  rw [script_eq filled] at ok written
  obtain ⟨-, -, listed, behind, text⟩ := (Renderer.new d).sql_of_parts ok
  have each := Script.separated_isOk listed
  refine ⟨each, behind, ?_⟩
  rw [← written, Renderer.finish, text, Renderer.written_text, Renderer.write_text,
    Renderer.written_separated _ _ each, Renderer.writtenEach_congr (Renderer.untexted_push _ _)]
  rfl

/-- If a statement is known to put out so many columns, the list of them in its text has so many
items at its top level, and no star among them; so no common table expression that declares as many
columns as that list has items is refused for it. Texts brought along have to close their quotes and
parentheses, and a column with operands has to be one item; `RETURNING` may not hold raw lists or
stars. -/
theorem width_exact (d : Dialect) (q : Query) (b : Built)
    (closed : ∀ f ∈ q.projection, f.Each TextRule.closed.everywhere)
    (operands : ∀ p ∈ q.projection.zip (q.outputTexts d),
      p.1.expr.hasOperands = true → Text.Item p.2)
    (returning : (∀ s, q ≠ .select s) → ∀ f ∈ q.projection, f.expr.hasUnknownWidth = false)
    (built : q.build d = .ok b) :
    let list := Text.commaSeparated (q.outputTexts d)
    (∀ n, q.width = some n →
      (∃ r : Renderer, b.sql.toList = ((Renderer.new d).write (q.opening d)).sql.toList ++
        q.keyword.toList ++ list ++ r.written (q.closing d)) ∧
      (Text.items .outer list).length = n ∧ ∀ item ∈ Text.items .outer list, ¬Text.Starred item) ∧
    ∀ node columns branch, columns.length = (Text.items .outer list).length →
      Script.checkWidth node columns branch q = .empty := by
  intro list
  have exact_of (n : Nat) (width : q.width = some n) :
      (∃ r : Renderer, b.sql.toList = ((Renderer.new d).write (q.opening d)).sql.toList ++
        q.keyword.toList ++ list ++ r.written (q.closing d)) ∧
      (Text.items .outer list).length = n ∧
        ∀ item ∈ Text.items .outer list, ¬Text.Starred item := by
    obtain ⟨length, filled, selected⟩ := projection_of_width width
    obtain ⟨okEach, sql⟩ := sql_of_projection filled built
    have known : ∀ f ∈ q.projection, f.expr.hasUnknownWidth = false := by
      by_cases isSelect : ∃ s, q = .select s
      · obtain ⟨s, same⟩ := isSelect
        exact selected s same
      · exact returning (not_exists.mp isSelect)
    have count : (q.outputTexts d).length = n := by
      rw [outputTexts, Renderer.length_writtenEach, outputs, Field.outputs_eq_map, List.length_map,
        length]
    have anyText : q.outputTexts d ≠ [] := by
      intro empty
      rw [empty, ← length] at count
      exact filled (List.length_eq_zero_iff.mp count.symm)
    obtain ⟨counted, unstarred⟩ :=
      items_of_texts anyText (items_of_known closed known operands okEach)
    exact ⟨sql, counted.trans count, unstarred⟩
  refine ⟨exact_of, fun node columns branch declared => ?_⟩
  rw [Script.checkWidth]
  cases width : q.width with
  | none => rfl
  | some n =>
      have same := (exact_of n width).2.1
      rw [declared, same]
      simp [Script.require]

/-- Five columns: a name with a comma, a value, raw text and a template with commas between quotes
and parentheses, and a subquery that puts out two. -/
def summary : Query :=
  .select (.ofFields [(Field.qualified "t" "full, name").aliased "x*", .value (.int 7),
    .raw "COALESCE(a, '(,')", .template "LOWER(?) || ', '" [.bare "b"],
    .scalar (.select ((Select.ofFields [.bare "a", .bare "b"]).call
      (.source (.table (.named "log")))))])

theorem summary_closed : ∀ f ∈ summary.projection, f.Each TextRule.closed.everywhere := by
  intro f member
  simp only [summary, projection, Select.ofFields, List.mem_cons, List.not_mem_nil, or_false]
    at member
  rcases member with rfl | rfl | rfl | rfl | rfl <;>
    simp [Select.call, Query.Each, Select.Each, Cte.EachOf, Source.EachOption,
      Source.Each, Join.EachOf, Predicate.EachOf, Field.EachOf, Field.Each, Expr.Each, Field.aliased,
      Field.qualified, Field.bare, Field.ofExpr, Field.value, Field.raw, Field.template, Field.scalar,
      Table.named, TextRule.everywhere, TextRule.closed, TextRule.table, TextRule.optional,
      TextRule.expr, TextRule.source]
  · decide
  · decide

theorem width_exact_summary :
    summary.width = some 5 ∧
      ∃ b list, summary.build .postgres = .ok b ∧ b.sql.toList = "SELECT ".toList ++ list ∧
        Text.items .outer list = ["t.\"full, name\" AS \"x*\"".toList, " $1".toList,
          " COALESCE(a, '(,')".toList, " LOWER(b) || ', '".toList, " (SELECT a, b FROM log)".toList] ∧
        ∀ item ∈ Text.items .outer list, ¬Text.Starred item := by
  have texts : summary.outputTexts .postgres = ["t.\"full, name\" AS \"x*\"".toList, "$1".toList,
      "COALESCE(a, '(,')".toList, "LOWER(b) || ', '".toList,
      "(SELECT a, b FROM log)".toList] := by decide +kernel
  have operands : ∀ p ∈ summary.projection.zip (summary.outputTexts .postgres),
      p.1.expr.hasOperands = true → Text.Item p.2 := by
    rw [texts]
    intro p member filled
    simp only [summary, projection, Select.ofFields, List.zip_cons_cons, List.zip_nil_left,
      List.mem_cons, List.not_mem_nil, or_false] at member
    rcases member with rfl | rfl | rfl | rfl | rfl
    · exact absurd filled Bool.false_ne_true
    · exact absurd filled Bool.false_ne_true
    · exact absurd filled Bool.false_ne_true
    · refine ⟨by decide, Text.Solid.not_starred ⟨"LOWER(b) || ', ".toList, '\'', ?_⟩⟩
      decide
    · exact absurd filled Bool.false_ne_true
  obtain ⟨b, built⟩ : ∃ b, summary.build .postgres = .ok b := by
    rw [build_eq_script]
    exact ⟨_, rfl⟩
  obtain ⟨known, -⟩ := width_exact .postgres summary b summary_closed operands
    (fun other => absurd rfl (other _)) built
  obtain ⟨⟨r, sql⟩, -, unstarred⟩ := known 5 rfl
  have front : ((Renderer.new .postgres).write (summary.opening .postgres)).sql = "" := rfl
  have back : r.written (summary.closing .postgres) = [] := rfl
  have keyword : summary.keyword = "SELECT " := rfl
  rw [front, back, keyword, texts] at sql
  rw [texts] at unstarred
  exact ⟨rfl, b, _, built, by simpa using sql, by decide +kernel, unstarred⟩

/-- A template with operands counts as one column, also where it writes two; raw text with half a
quotation takes what follows into its item; and behind `RETURNING` a raw star counts as a column. -/
theorem width_inexact :
    let pair : Query := .select (.ofFields [.template "?, ?" [.bare "a", .bare "b"]])
    let half : Query := .select (.ofFields [.raw "'", .bare "b"])
    let all : Query := .insert { Insert.into (.named "cat") with returning := [.raw "*"] }
    pair.width = some 1 ∧ pair.build .sqlite = .ok ⟨"SELECT a, b", []⟩ ∧
      Text.items .outer "a, b".toList = ["a".toList, " b".toList] ∧
      (Script.checkWidth (.cte "c" false) ["x", "y"] .only pair).fault =
        some (.malformed (.cte "c" false) (.columnCount 2 .only 1)) ∧
      half.width = some 2 ∧ half.build .sqlite = .ok ⟨"SELECT ', b", []⟩ ∧
      Text.items .outer "', b".toList = ["', b".toList] ∧
      all.width = some 1 ∧
      all.build .sqlite = .ok ⟨"INSERT INTO cat DEFAULT VALUES RETURNING *", []⟩ ∧
      Text.Starred "*".toList := by
  refine ⟨rfl, ?_, by decide, rfl, rfl, ?_, by decide, rfl, ?_, .inl rfl⟩
  · cbv
  · cbv
  · cbv

end Query

end SqlTree
