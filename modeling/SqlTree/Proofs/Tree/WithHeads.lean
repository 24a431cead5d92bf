import SqlTree.Proofs.Tree.Wordless

namespace SqlTree

namespace Script

variable {d : Dialect}

theorem follows_asClause (name : Option String) (named : TextRule.wordless.optional name) :
    (asClause d name).Follows d [] := by
  cases name with
  | none => exact follows_empty
  | some name => exact (shows_ident name (named name rfl)).beyond (by decide)

theorem shows_tableName (x : Table) (named : TextRule.wordless.table x) :
    (tableName d x).Shows d [] := by
  rcases x with ⟨_ | schema, name, asName⟩
  · exact shows_ident name named.2.1
  · exact (shows_ident schema (named.1 schema rfl)).infix_text (k := ".") (by decide)
      (shows_ident name named.2.1)

theorem shows_table (x : Table) (named : TextRule.wordless.table x) : (table d x).Shows d [] :=
  (shows_tableName x named).followed (follows_asClause x.asName named.2.2)

theorem shows_column (bare : List String) (qualifier name : String)
    (qualified : Text.Wordless qualifier.toList) (named : Text.Wordless name.toList) :
    (column d bare qualifier name).Shows d [] := by
  rw [column]
  cases _ : decide (qualifier ≠ "") && !bare.contains qualifier with
  | false => exact shows_ident name named
  | true =>
      exact (shows_ident qualifier qualified).infix_text (k := ".") (by decide)
        (shows_ident name named)

theorem shows_proposed (name : String) (named : Text.Wordless name.toList) :
    (proposed d name).Shows d [] := by
  have written := shows_ident (d := d) name named
  cases d with
  | mysql => exact written.enclosed (by decide)
  | sqlite => exact written.behind (by decide)
  | postgres => exact written.behind (by decide)

theorem follows_materialization (hint : Option Bool) : (materialization d hint).Follows d [] := by
  cases hint with
  | none => exact follows_empty
  | some hint =>
      refine Follows.onlyIf _ (follows_text ?_)
      cases hint <;> decide

theorem silent_checkWidth (node : Node) (columns : List String) (branch : CteBranch) (q : Query) :
    (checkWidth node columns branch q).Silent := by
  unfold checkWidth
  split
  · exact fun _ => rfl
  · exact silent_require _ _

theorem follows_direction (direction : Option Direction) :
    (Script.direction direction).Follows d [] := by
  rcases direction with _ | _ | _
  · exact follows_empty
  · exact follows_text (by decide)
  · exact follows_text (by decide)

theorem follows_nullPlace (nulls : Option NullPlace) : (nullPlace nulls).Follows d [] := by
  rcases nulls with _ | _ | _
  · exact follows_empty
  · exact follows_text (by decide)
  · exact follows_text (by decide)

theorem follows_bounds (limit offset : Option Int64) : (bounds d limit offset).Follows d [] := by
  rcases limit with _ | n <;> rcases offset with _ | m
  · exact follows_empty
  · refine (shows_integer m).beyond ?_
    cases d <;> decide
  · exact (shows_integer n).beyond (by decide)
  · exact ((shows_integer n).beyond (by decide)).infix_text (by decide) (shows_integer m)

end Script

structure Field.Shows (d : Dialect) (f : Field) : Prop where
  expr : TextRule.wordless.expr f.expr
  asName : TextRule.wordless.optional f.asName
  script : ∀ bare, (f.script d bare).Shows d f.withLists

def NodeProperty.showing (d : Dialect) : NodeProperty where
  expr e := TextRule.wordless.expr e ∧ ∀ bare, (e.script d bare).Shows d e.withLists
  field := Field.Shows d
  predicate p := ∀ bare place, (p.script d bare place).Shows d p.withLists
  source s := (s.script d).Shows d s.withLists
  cte c := (c.script d).Shows d c.withLists
  join j := (j.script d).Shows d j.withLists
  assignment a := ∀ targetBare valueBare, (a.script d targetBare valueBare).Shows d a.withLists
  select s := (s.script d).Shows d s.withLists
  insert i := (i.script d).Shows d i.withLists
  update u := (u.script d).Shows d u.withLists
  delete q := (q.script d).Shows d q.withLists

namespace Showing

open Script

variable {d : Dialect}

theorem query (q : Query) (own : (NodeProperty.showing d).query q) :
    (q.script d).Shows d q.withLists := by
  cases q with
  | select s => exact own
  | insert i => exact own
  | update u => exact own
  | delete q => exact own

theorem fields (bare : List String) {list : List Field} (each : ∀ f ∈ list, f.Shows d) :
    (separated ", " (Field.scripts d bare list)).Shows d (Field.withListsOf list) := by
  rw [Field.scripts_eq_map, Field.withListsOf_eq]
  exact Shows.separated (by decide) fun f member => (each f member).script bare

theorem grouping {list : List Field} (each : ∀ f ∈ list, f.Shows d) :
    (listClause " GROUP BY " (Field.scripts d [] list)).Follows d (Field.withListsOf list) := by
  rw [Field.scripts_eq_map, Field.withListsOf_eq]
  exact Shows.listClause (by decide) fun f member => (each f member).script []

theorem output (bare : List String) {f : Field} (own : f.Shows d) :
    (f.script d bare ++ asClause d f.asName).Shows d f.withLists :=
  (own.script bare).followed (follows_asClause f.asName own.asName)

theorem outputs (bare : List String) {list : List Field} (each : ∀ f ∈ list, f.Shows d) :
    (separated ", " (Field.outputs d bare list)).Shows d (Field.withListsOf list) := by
  rw [Field.outputs_eq_map, Field.withListsOf_eq]
  exact Shows.separated (by decide) fun f member => output bare (each f member)

theorem returning (bare : List String) {list : List Field} (each : ∀ f ∈ list, f.Shows d) :
    (listClause " RETURNING " (Field.outputs d bare list)).Follows d (Field.withListsOf list) := by
  rw [Field.outputs_eq_map, Field.withListsOf_eq]
  exact Shows.listClause (by decide) fun f member => output bare (each f member)

theorem ordering {list : List Field} (each : ∀ f ∈ list, f.Shows d) :
    (listClause " ORDER BY " (Field.orderings d list)).Follows d (Field.withListsOf list) := by
  rw [Field.orderings_eq_map, Field.withListsOf_eq]
  refine Shows.listClause (by decide) fun f member => ?_
  refine (((each f member).script []).followed (follows_direction f.direction)).followed ?_
  split
  · exact follows_failure _
  · exact follows_nullPlace f.nulls

theorem rows (bare : List String) {list : List (List Field)}
    (each : ∀ row ∈ list, ∀ f ∈ row, f.Shows d) :
    (separated ", " (Field.rows d bare list)).Shows d (Field.withListsOfRows list) := by
  rw [Field.rows_eq_map, Field.withListsOfRows_eq]
  refine Shows.separated (by decide) fun row member => ?_
  rw [← Field.scripts_eq_map]
  exact (fields bare (each row member)).parens.shown

theorem columnNames (node : Node) {list : List Field} (each : ∀ f ∈ list, f.Shows d) :
    (Field.columnNames d node true list).Shows d [] ∧
      (Field.columnNames d node false list).Follows d [] := by
  induction list with
  | nil => exact ⟨follows_empty.shown, follows_empty⟩
  | cons f rest ih =>
      obtain ⟨own, others⟩ := List.forall_mem_cons.mp each
      obtain ⟨-, behind⟩ := ih others
      rcases f with ⟨expr, asName, direction, nulls⟩
      cases expr with
      | column table tableAlias name type =>
          have written := shows_ident (d := d) name own.expr.2.2
          exact ⟨written.followed behind, (written.beyond (by decide)).followed behind⟩
      | _ => exact ⟨(follows_failure _).shown, follows_failure _⟩

theorem columnList (node : Node) {list : List Field} (each : ∀ f ∈ list, f.Shows d) :
    (Script.onlyIf (!list.isEmpty)
      (.text " " ++ .parens (Field.columnNames d node true list))).Follows d [] :=
  Follows.onlyIf _ ((columnNames node each).1.parens.shown.beyond (by decide))

theorem conditions {k : String} (between : isBetween k = true) {list : List Predicate}
    (each : ∀ p ∈ list, ∀ bare place, (p.script d bare place).Shows d p.withLists) :
    (Script.conditions k (Predicate.scripts d [] (Predicate.memberPlace true list) list)).Follows d
      (Predicate.withListsOf list) := by
  rw [Predicate.scripts_eq_map, Predicate.withListsOf_kept]
  exact Shows.conditions between fun p member => each p (List.mem_filter.mp member).1 _ _

theorem joins {list : List Join} (each : ∀ j ∈ list, (j.script d).Shows d j.withLists) :
    (Script.joinsClause (Join.scripts d list)).Follows d (Join.withListsOf list) := by
  rw [Join.scripts_eq_map, Join.withListsOf_eq]
  exact Shows.joinsClause each

theorem source {k : String} (between : isBetween k = true) {source : Option Source}
    (each : ∀ x ∈ source, (x.script d).Shows d x.withLists) :
    (Source.clause d k source).Follows d (Source.withListsOption source) := by
  cases source with
  | none => exact follows_empty
  | some source => exact (each source rfl).beyond between

theorem assignments (targetBare valueBare : List String) {list : List Assignment}
    (each : ∀ a ∈ list, ∀ targetBare valueBare,
      (a.script d targetBare valueBare).Shows d a.withLists) :
    (separated ", " (Assignment.scripts d targetBare valueBare list)).Shows d
      (Assignment.withListsOf list) := by
  rw [Assignment.scripts_eq_map, Assignment.withListsOf_eq]
  exact Shows.separated (by decide) fun a member => each a member targetBare valueBare

theorem opened {checks s : Script} {k : String} {ctes : List Cte} {lists : List (List Cte)}
    (silent : checks.Silent) (each : ∀ c ∈ ctes, (c.script d).Shows d c.withLists)
    (front : isFront k = true) (shown : s.Shows d lists) :
    (checks ++ Script.withClause ctes (Cte.scripts d ctes) ++ .text k ++ s).Shows d
      (Cte.ownLists ctes ++ Cte.withListsOf ctes ++ lists) :=
  (silent.before_ends (ends_withClause ctes)).infix_text (silent.before (Shows.withClause each))
    front shown

theorem target {checks s : Script} {k : String} {ctes : List Cte} (silent : checks.Silent)
    (each : ∀ c ∈ ctes, (c.script d).Shows d c.withLists) (front : isFront k = true)
    (shown : s.Shows d []) :
    (checks ++ Script.withClause ctes (Cte.scripts d ctes) ++ .text k ++ s).Shows d
      (Cte.ownLists ctes ++ Cte.withListsOf ctes) := by
  have whole := opened silent each front shown
  rwa [List.append_nil] at whole

theorem cte (name : String) (asName : Option String) (columns : List String) (body : CteBody)
    (hint : Option Bool) (named : Text.Wordless name.toList)
    (columnsNamed : ∀ c ∈ columns, Text.Wordless c.toList)
    (inner : (body.script d name columns).Shows d body.withLists) :
    (Cte.script d ⟨name, asName, columns, body, hint⟩).Shows d body.withLists := by
  have list : (Script.onlyIf (!columns.isEmpty)
      (.text " " ++ .parens (.separated ", " (columns.map (.ident d))))).Follows d [] := by
    have names : (separated ", " (columns.map (ident d))).Shows d (columns.flatMap fun _ => []) :=
      Shows.separated (by decide) fun c member => shows_ident c (columnsNamed c member)
    rw [List.flatMap_eq_nil_iff.mpr fun _ _ => rfl] at names
    exact Follows.onlyIf _ (names.parens.shown.beyond (by decide))
  have front := (((shows_ident name named).followed list).followed
    (follows_text (k := " AS ") (by decide))).followed (follows_materialization hint)
  exact front.append inner.parens

theorem body (table : Table) (columns : List Field) (rows : List (List Field))
    (source : Option Select) (s : ∀ x ∈ source, (x.script d).Shows d x.withLists)
    (r : ∀ row ∈ rows, ∀ f ∈ row, f.Shows d) :
    (if source.isSome then Select.clause d source
      else if !rows.isEmpty then
        .text " VALUES " ++ .separated ", " (Field.rows d [table.qualifier] rows)
      else if !columns.isEmpty then
        .failure (.malformed (.insert table.name) .columnsWithoutValues)
      else .text (if d == .mysql then " () VALUES ()" else " DEFAULT VALUES") : Script).Follows d
      (if source.isSome then Select.withListsOption source else Field.withListsOfRows rows) := by
  cases source with
  | some source => exact (s source rfl).beyond (k := " ") (by decide)
  | none =>
      rw [if_neg (by decide), if_neg (by decide)]
      split
      · exact (Showing.rows [table.qualifier] r).beyond (by decide)
      case isFalse none =>
        obtain rfl : rows = [] := by simpa using none
        split
        · exact follows_failure _
        · refine follows_text ?_
          cases d <;> decide

theorem conflict (table : Table) (c : Option Conflict)
    (target : ∀ x ∈ c, ∀ f ∈ x.target, f.Shows d)
    (upsert : ∀ x ∈ c, ∀ a ∈ x.action.assignments, ∀ targetBare valueBare,
      (a.script d targetBare valueBare).Shows d a.withLists) :
    (Conflict.clause d table c).Follows d (Conflict.withListsOption c) := by
  rcases c with _ | ⟨names, action⟩
  · exact follows_empty
  have columns := columnList (.insert table.name) (target _ rfl)
  have each := upsert _ rfl
  simp only [Conflict.clause, Conflict.script, Conflict.withListsOption]
  cases action with
  | nothing =>
      split
      · exact ((follows_text (by decide)).followed columns).followed (follows_text (by decide))
      · exact follows_empty
  | update list =>
      have set {k : String} (start : isBetween k = true) (fault : Fault) (condition : Bool) :
          (require condition fault ++ text k ++ separated ", "
            (Assignment.scripts d [table.qualifier] [table.qualifier] list)).Follows d
            (Assignment.withListsOf list) :=
        (silent_require condition fault).follows.infix_text start (assignments _ _ each)
      split
      · have start := (follows_text (d := d) (k := " ON CONFLICT") (by decide)).followed columns
        exact start.append ((silent_require _ _).follows.append (set (by decide) _ _))
      · exact set (by decide) _ _

theorem join (j : Join) (kind : TextRule.wordless.joinKind j.kind)
    (source : (j.source.script d).Shows d j.source.withLists)
    (each : ∀ p ∈ j.conditions, ∀ bare place, (p.script d bare place).Shows d p.withLists) :
    (j.script d).Shows d j.withLists := by
  rcases j with ⟨kind', source', conditions'⟩
  have word : Text.Wordless kind'.keyword.toList := by
    cases kind' with
    | custom keyword => exact wordless_keyword kind
    | _ => exact (Text.occurrences_eq_nil_iff (by decide) _).mp (by decide)
  exact (source.behind (isFront_word word)).append (conditions (by decide) each)

theorem membership (bare : List String) {f : Field} (own : f.Shows d) (negated : Bool)
    {inner : Script} {lists : List (List Cte)} (shown : inner.Shows d lists) :
    (f.script d bare ++ text (if negated then " NOT IN (" else " IN (") ++ inner ++
      text ")").Shows d (f.withLists ++ lists) := by
  refine ((own.script bare).infix_text ?_ shown).followed (follows_text (by decide))
  cases negated <;> decide

theorem changes (own shared : List String) {list : List Assignment} {source' : Option Source}
    {joins' : List Join} {condition : Bool} {fault : Fault}
    (a : ∀ a ∈ list, ∀ targetBare valueBare, (a.script d targetBare valueBare).Shows d a.withLists)
    (s : ∀ x ∈ source', (x.script d).Shows d x.withLists)
    (j : ∀ j ∈ joins', (j.script d).Shows d j.withLists) :
    (if d == .mysql then
        Source.clause d ", " source' ++ joinsClause (Join.scripts d joins') ++ text " SET " ++
          separated ", " (Assignment.scripts d shared shared list)
      else
        text " SET " ++ separated ", " (Assignment.scripts d own shared list) ++
          Source.clause d " FROM " source' ++ require condition fault ++
          joinsClause (Join.scripts d joins')).Follows d
      (Assignment.withListsOf list ++
        (Source.withListsOption source' ++ Join.withListsOf joins')) := by
  split
  · have others := (source (k := ", ") (by decide) s).append (joins j)
    exact (others.infix_text (by decide) (assignments shared shared a)).perm List.perm_append_comm
  · have set := (assignments own shared a).beyond (k := " SET ") (by decide)
    have checked := (silent_require condition fault).follows (d := d)
    rw [← List.append_assoc]
    exact ((set.append (source (by decide) s)).followed checked).append (joins j)

end Showing

theorem showing_hereditary (d : Dialect) :
    TextRule.wordless.everywhere.Hereditary (NodeProperty.showing d) where
  column table tableAlias name type named := by
    refine ⟨named, fun bare => ?_⟩
    simp only [Expr.script, Expr.withLists]
    refine Script.shows_column bare _ name ?_ named.2.2
    simp only [Expr.qualifier]
    split
    · exact named.1
    · exact named.2.1
  proposed name named := by
    refine ⟨named, fun bare => ?_⟩
    simp only [Expr.script, Expr.withLists]
    exact Script.shows_proposed name named
  value v _ := by
    refine ⟨trivial, fun bare => ?_⟩
    simp only [Expr.script, Expr.withLists]
    exact Script.shows_slot _ rfl
  shared name v _ := by
    refine ⟨trivial, fun bare => ?_⟩
    simp only [Expr.script, Expr.withLists]
    exact Script.shows_slot _ rfl
  template format operands allowed each := by
    refine ⟨allowed, fun bare => ?_⟩
    simp only [Expr.script, Expr.withLists]
    rw [Field.scripts_eq_map, Field.withListsOf_eq]
    exact Script.shows_template format (fun f member => (each f member).script bare) allowed.1
      allowed.2
  scalar query _ inner := by
    refine ⟨trivial, fun bare => ?_⟩
    simp only [Expr.script, Expr.withLists]
    exact (Showing.query query inner).parens.shown
  field f named inner := by
    refine ⟨inner.1, named, fun bare => ?_⟩
    rcases f with ⟨expr, asName, direction, nulls⟩
    simp only [Field.script, Field.withLists]
    exact inner.2 bare
  compare left op right _ l r bare place := by
    simp only [Predicate.script, Predicate.withLists]
    refine (l.script bare).infix_text ?_ (r.script bare)
    cases op <;> decide
  isNull field negated _ f bare place := by
    simp only [Predicate.script, Predicate.withLists]
    refine (f.script bare).followed (Script.follows_text ?_)
    cases negated <;> decide
  inList field values negated _ f vs bare place := by
    simp only [Predicate.script, Predicate.withLists]
    split
    · exact (Script.follows_failure _).shown
    · exact Showing.membership bare f negated (Showing.fields bare vs)
  inQuery field query negated _ f q bare place := by
    simp only [Predicate.script, Predicate.withLists]
    exact Showing.membership bare f negated (Showing.query query q)
  between field low high negated _ f l u bare place := by
    simp only [Predicate.script, Predicate.withLists]
    refine ((f.script bare).infix_text ?_ (l.script bare)).infix_text (by decide) (u.script bare)
    cases negated <;> decide
  existsRow query negated _ q bare place := by
    simp only [Predicate.script, Predicate.withLists]
    refine (Showing.query query q).enclosed ?_
    cases negated <;> decide
  not inner _ p bare place := by
    cases empty : inner.isEmpty with
    | true =>
        simp only [Predicate.script, Predicate.withLists, empty]
        rw [Predicate.withLists_of_isEmpty inner empty]
        exact Script.follows_empty.shown
    | false =>
        simp only [Predicate.script, Predicate.withLists, empty]
        exact (p bare none).enclosed (by decide)
  group op members toplevel _ ps bare place := by
    simp only [Predicate.script, Predicate.withLists]
    rw [Predicate.scripts_eq_map, Predicate.withListsOf_kept]
    exact Script.Shows.group op _ fun p member => ps p (List.mem_filter.mp member).1 _ _
  holds field _ f bare place := by
    simp only [Predicate.script, Predicate.withLists]
    exact f.script bare
  table x named := by
    simp only [NodeProperty.showing, Source.script, Source.withLists]
    exact Script.shows_table x named
  subquery query name named q := by
    simp only [NodeProperty.showing, Source.script, Source.withLists]
    have inner := (Showing.query query q).parens
    have whole := inner.shown.infix_text (k := " AS ") (by decide) (Script.shows_ident name named)
    rwa [List.append_nil] at whole
  cteSource name asName named := by
    simp only [NodeProperty.showing, Source.script, Source.withLists]
    exact (Script.shows_ident name named.1).followed (Script.follows_asClause asName named.2)
  plainCte name asName columns query hint named q := by
    simp only [NodeProperty.showing, Cte.withLists]
    refine Showing.cte name asName columns _ hint named.1 named.2.2 ?_
    cases query with
    | none => exact Script.shows_text (by decide)
    | some query =>
        have checked := Script.silent_checkWidth (.cte name false) columns .only query
        exact checked.before (Showing.query query (q query rfl))
  recursiveCte name asName columns initial step hint named i s := by
    simp only [NodeProperty.showing, Cte.withLists]
    refine Showing.cte name asName columns _ hint named.1 named.2.2 ?_
    rcases initial with _ | initial
    · exact (Script.follows_failure _).shown
    rcases step with _ | ⟨kind, step⟩
    · exact (Script.follows_failure _).shown
    have between : isBetween kind.separator = true := by cases kind <;> decide
    have checks := (Script.silent_checkWidth (.cte name true) columns .initial initial).append
      (Script.silent_checkWidth (.cte name true) columns .step step)
    exact (checks.before (Showing.query initial (i initial rfl))).infix_text between
      (Showing.query step (s _ rfl))
  join j kind source ps := Showing.join j kind source ps
  assignment a _ target value targetBare valueBare := by
    rcases a with ⟨target', value'⟩
    simp only [Assignment.script, Assignment.withLists]
    exact (target.script targetBare).infix_text (by decide) (value.script valueBare)
  select s _ parts := by
    rcases s with ⟨ctes, distinct, fields, source, joins, conditions, grouping, having, ordering,
      limit, offset⟩
    have start : isFront (if distinct then "SELECT DISTINCT " else "SELECT ") = true := by
      cases distinct <;> decide
    simp only [NodeProperty.showing, Select.script, Select.withLists]
    -- peeled off from the end, clause by clause
    refine Script.Shows.followed ?_ (Script.follows_bounds limit offset)
    refine Script.Shows.append ?_ (Showing.ordering parts.ordering)
    refine Script.Shows.append ?_ (Showing.conditions (by decide) parts.having)
    refine Script.Shows.append ?_ (Showing.grouping parts.grouping)
    refine Script.Shows.append ?_ (Showing.conditions (by decide) parts.conditions)
    refine Script.Shows.append ?_ (Showing.joins parts.joins)
    refine Script.Shows.followed ?_ (Script.silent_require _ _).follows
    refine Script.Shows.append ?_ (Showing.source (by decide) parts.source)
    refine Showing.opened ?_ parts.ctes start (Showing.outputs [] parts.fields)
    exact (Script.silent_require _ _).append (Script.silent_require _ _)
  insert i named parts := by
    rcases i with ⟨ctes, table, columns, rows, source, conflict, returning, fault⟩
    simp only [NodeProperty.showing, Insert.script, Insert.withLists]
    refine Script.Shows.append ?_ (Showing.returning [table.qualifier] parts.returning)
    refine Script.Shows.append ?_ (Showing.conflict table conflict parts.target parts.upsert)
    refine Script.Shows.append ?_ (Showing.body table columns rows source parts.source parts.rows)
    refine Script.Shows.followed ?_ (Showing.columnList _ parts.columns)
    refine Showing.target ?_ parts.ctes ?_ ?_
    · refine Script.Silent.append ?_ (Script.silent_require _ _)
      cases fault with
      | none => exact fun _ => rfl
      | some fault => exact Script.silent_failure _
    · split <;> decide
    · split
      · exact Script.shows_tableName table named
      · exact Script.shows_table table named
  update u named parts := by
    rcases u with ⟨ctes, table, assignments, source, joins, conditions, returning⟩
    simp only [NodeProperty.showing, Update.script, Update.withLists]
    refine Script.Shows.append ?_ (Showing.returning _ parts.returning)
    refine Script.Shows.append ?_ (Showing.conditions (by decide) parts.conditions)
    rw [List.append_assoc (_ ++ _), List.append_assoc (_ ++ _)]
    refine Script.Shows.append ?_
      (Showing.changes [table.qualifier] _ parts.assignments parts.source parts.joins)
    exact Showing.target ((Script.silent_require _ _).append (Script.silent_require _ _)) parts.ctes
      (by decide) (Script.shows_table table named)
  delete q named parts := by
    rcases q with ⟨ctes, table, conditions, returning, everyRow⟩
    simp only [NodeProperty.showing, Delete.script, Delete.withLists]
    refine Script.Shows.append ?_ (Showing.returning _ parts.returning)
    refine Script.Shows.append ?_ (Showing.conditions (by decide) parts.conditions)
    exact Showing.target ((Script.silent_require _ _).append (Script.silent_require _ _)) parts.ctes
      (by decide) (Script.shows_table table named)

theorem Script.shows_query (d : Dialect) (q : Query) (each : q.Each TextRule.wordless.everywhere) :
    (q.script d).Shows d q.withLists :=
  Showing.query q ((showing_hereditary d).of_query q each)

end SqlTree
