import SqlTree.Proofs.Tree.Induction
import SqlTree.Tree.Script

/-!
Layout of statements: which scripts follow which. A property of scripts holds of every statement
once it passes along a few ways of putting scripts together, whatever the statement. Scripts that
come right behind another one, with no syntax between, have to be tails: they hold their own against
the text before them.
-/

namespace SqlTree

/-- What is asked of the texts that a tree brings along: identifiers, the keywords of custom joins,
templates with the number of their operands, and the names of shared arguments with their values. -/
structure TextRule where
  name : String → Prop := fun _ => True
  keyword : String → Prop := fun _ => True
  template : String → Nat → Prop := fun _ _ => True
  shared : String → Value → Prop := fun _ _ => True

namespace TextRule

variable (t : TextRule)

def optional (name : Option String) : Prop := ∀ n ∈ name, t.name n

@[simp] theorem optional_none : t.optional none := fun _ found => nomatch found

@[simp] theorem optional_some (name : String) : t.optional (some name) ↔ t.name name := by
  simp [optional]

def table (x : Table) : Prop := t.optional x.schema ∧ t.name x.name ∧ t.optional x.asName

def expr : Expr → Prop
  | .column table tableAlias name _ => t.name table ∧ t.name tableAlias ∧ t.name name
  | .proposed name => t.name name
  | .template format operands => t.template format operands.length
  | .shared name v => t.shared name v
  | .value _ | .scalar _ => True

def source : Source → Prop
  | .table x => t.table x
  | .subquery _ name => t.name name
  | .cte name asName => t.name name ∧ t.optional asName

def joinKind : JoinKind → Prop
  | .custom keyword => t.keyword keyword
  | .inner | .left | .right | .full => True

def everywhere : NodeProperty where
  expr := t.expr
  field f := t.optional f.asName
  source := t.source
  cte c := t.name c.name ∧ t.optional c.asName ∧ ∀ column ∈ c.columns, t.name column
  join j := t.joinKind j.kind
  insert i := t.table i.table
  update u := t.table u.table
  delete d := t.table d.table

end TextRule

/-- How many parentheses are open behind a text, or none if it closes one that it did not open. -/
def openParens : Nat → List Char → Option Nat
  | depth, [] => some depth
  | depth, c :: rest =>
      if c = '(' then openParens (depth + 1) rest
      else if c = ')' then
        match depth with
        | 0 => none
        | depth + 1 => openParens depth rest
      else openParens depth rest

/-- Text of SQL itself that leaves so many parentheses open: it holds neither quotes nor signs of
placeholders and does not start with a digit. -/
def isSyntax (opened : Nat) (text : String) : Bool :=
  text.toList.all (fun c => c ∉ ['?', '$', '\'', '"', '\x60']) &&
    text.toList.head?.any (!·.isDigit) && openParens 0 text.toList == some opened

/-- A property `P` of scripts, and `T` of tails, that passes to all that surrounds expressions. -/
structure Frame (d : Dialect) (t : TextRule) (P T : Script → Prop) : Prop where
  of_tail : ∀ {s}, T s → P s
  append : ∀ {a b}, P a → T b → P (a ++ b)
  tail_append : ∀ {a b}, T a → T b → T (a ++ b)
  empty : T .empty
  failure : ∀ fault, T (.failure fault)
  syntax_text : ∀ {k}, isSyntax 0 k = true → T (.text k)
  behind : ∀ {k s}, isSyntax 0 k = true → P s → T (.text k ++ s)
  enclosed : ∀ {k s}, isSyntax 1 k = true → P s → T (.text k ++ s ++ .text ")")
  integer : ∀ n, P (.integer n)
  ident : ∀ {name}, t.name name → T (.ident d name)
  value : ∀ v, P (.ofPiece (.value v))
  shared : ∀ {name v}, t.shared name v → P (.ofPiece (.shared name v))
  keyword : ∀ {keyword}, t.keyword keyword → P (.text ((JoinKind.custom keyword).keyword ++ " "))

/-- A property that passes to statements, since it passes to templates as well. -/
structure Layout (d : Dialect) (t : TextRule) (P T : Script → Prop) : Prop
    extends Frame d t P T where
  template : ∀ {format} {operands : List Script}, t.template format operands.length →
    (∀ s ∈ operands, P s) → P (.template format operands)

/-- What is known of an expression: that its own texts obey `t`, what else is `known` of it, and
what holds of its script. -/
structure ExprFits (d : Dialect) (t : TextRule) (known : Expr → Prop) (P : Script → Prop)
    (e : Expr) : Prop where
  texts : t.expr e
  known : known e
  script : ∀ bare, P (e.script d bare)

structure FieldFits (d : Dialect) (t : TextRule) (known : Expr → Prop) (P : Script → Prop)
    (f : Field) : Prop where
  expr : t.expr f.expr
  known : known f.expr
  asName : t.optional f.asName
  script : ∀ bare, P (f.script d bare)

/-- The texts of nodes that obey `rule` obey `t`, those of expressions apart. -/
structure TextRule.ImpliedBy (t : TextRule) (rule : NodeProperty) : Prop where
  field : ∀ f, rule.field f → t.optional f.asName
  source : ∀ s, rule.source s → t.source s
  cte : ∀ c, rule.cte c → t.name c.name ∧ t.optional c.asName ∧ ∀ column ∈ c.columns, t.name column
  join : ∀ j, rule.join j → t.joinKind j.kind
  insert : ∀ i, rule.insert i → t.table i.table
  update : ∀ u, rule.update u → t.table u.table
  delete : ∀ d, rule.delete d → t.table d.table

namespace Frame

variable {d : Dialect} {t : TextRule} {known : Expr → Prop} {P T : Script → Prop}

def property (d : Dialect) (t : TextRule) (known : Expr → Prop) (P T : Script → Prop) :
    NodeProperty where
  expr := ExprFits d t known P
  field := FieldFits d t known P
  predicate p := ∀ bare place, P (p.script d bare place)
  source s := T (s.script d)
  cte c := T (c.script d)
  join j := P (j.script d)
  assignment a := ∀ targetBare valueBare, P (a.script d targetBare valueBare)
  select s := T (s.script d)
  insert i := T (i.script d)
  update u := T (u.script d)
  delete q := T (q.script d)

theorem fields_fit (bare : List String) (list : List Field)
    (each : ∀ f ∈ list, FieldFits d t known P f) :
    ∀ s ∈ Field.scripts d bare list, P s := by
  rw [Field.scripts_eq_map]
  intro s member
  obtain ⟨f, present, rfl⟩ := List.mem_map.mp member
  exact (each f present).script bare

theorem predicates_fit (bare : List String) (place : Option Bool) (list : List Predicate)
    (each : ∀ p ∈ list, ∀ bare place, P (p.script d bare place)) :
    ∀ s ∈ Predicate.scripts d bare place list, P s := by
  rw [Predicate.scripts_eq_map]
  intro s member
  obtain ⟨p, present, rfl⟩ := List.mem_map.mp member
  exact each p (List.mem_filter.mp present).1 bare place

theorem assignments_fit (targetBare valueBare : List String) (list : List Assignment)
    (each : ∀ a ∈ list, ∀ targetBare valueBare, P (a.script d targetBare valueBare)) :
    ∀ s ∈ Assignment.scripts d targetBare valueBare list, P s := by
  rw [Assignment.scripts_eq_map]
  intro s member
  obtain ⟨a, present, rfl⟩ := List.mem_map.mp member
  exact each a present targetBare valueBare

theorem query_fits (q : Query) (h : (property d t known P T).query q) : T (q.script d) := by
  cases q with
  | select s => exact h
  | insert i => exact h
  | update u => exact h
  | delete q => exact h

variable (L : Frame d t P T)

include L

theorem infix_text {a b : Script} {k : String} (left : P a) (between : isSyntax 0 k = true)
    (right : P b) : P (a ++ .text k ++ b) := by
  rw [Script.append_assoc]
  exact L.append left (L.behind between right)

theorem tail_infix_text {a b : Script} {k : String} (left : T a) (between : isSyntax 0 k = true)
    (right : P b) : T (a ++ .text k ++ b) := by
  rw [Script.append_assoc]
  exact L.tail_append left (L.behind between right)

theorem onlyIf {s : Script} (condition : Bool) (tail : T s) : T (.onlyIf condition s) := by
  cases condition with
  | false => exact L.empty
  | true => exact tail

theorem require (condition : Bool) (fault : Fault) : T (.require condition fault) := by
  cases condition with
  | false => exact L.failure fault
  | true => exact L.empty

theorem parens {s : Script} (inner : P s) : T (.parens s) := L.enclosed (by decide) inner

theorem separated {k : String} (between : isSyntax 0 k = true) (list : List Script)
    (each : ∀ s ∈ list, P s) : P (.separated k list) := by
  induction list with
  | nil => exact L.of_tail L.empty
  | cons s rest ih =>
      have others := ih fun x member => each x (List.mem_cons_of_mem s member)
      cases rest with
      | nil => exact each s List.mem_cons_self
      | cons next rest => exact L.infix_text (each s List.mem_cons_self) between others

theorem tail_separated {k : String} (between : isSyntax 0 k = true) (list : List Script)
    (each : ∀ s ∈ list, T s) : T (.separated k list) := by
  induction list with
  | nil => exact L.empty
  | cons s rest ih =>
      have others := ih fun x member => each x (List.mem_cons_of_mem s member)
      cases rest with
      | nil => exact each s List.mem_cons_self
      | cons next rest =>
          exact L.tail_infix_text (each s List.mem_cons_self) between (L.of_tail others)

theorem listClause {k : String} (start : isSyntax 0 k = true) (items : List Script)
    (each : ∀ s ∈ items, P s) : T (.listClause k items) :=
  L.onlyIf _ (L.behind start (L.separated (by decide) items each))

theorem group (op : Connective) (outermost : Bool) (members : List Script)
    (each : ∀ s ∈ members, P s) : P (.group op outermost members) := by
  have between : isSyntax 0 op.separator = true := by cases op <;> decide
  match members with
  | [] => exact L.of_tail L.empty
  | [s] => exact each s List.mem_cons_self
  | first :: second :: rest =>
      cases outermost with
      | true => exact L.separated between _ each
      | false => exact L.of_tail (L.parens (L.separated between _ each))

theorem conditions {k : String} (start : isSyntax 0 k = true) (members : List Script)
    (each : ∀ s ∈ members, P s) : T (.conditions k members) :=
  L.onlyIf _ (L.behind start (L.group .and true members each))

theorem asClause (name : Option String) (named : t.optional name) : T (.asClause d name) := by
  cases name with
  | none => exact L.empty
  | some name => exact L.behind (by decide) (L.of_tail (L.ident (named name rfl)))

theorem tableName (x : Table) (named : t.table x) : T (.tableName d x) := by
  rcases x with ⟨_ | schema, name, asName⟩
  · exact L.tail_append L.empty (L.ident named.2.1)
  · exact L.tail_append (L.tail_append (L.ident (named.1 schema rfl)) (L.syntax_text (by decide)))
      (L.ident named.2.1)

theorem table (x : Table) (named : t.table x) : T (.table d x) :=
  L.tail_append (L.tableName x named) (L.asClause x.asName named.2.2)

theorem withClause (ctes : List Cte) (definitions : List Script) (each : ∀ s ∈ definitions, T s) :
    T (.withClause ctes definitions) := by
  refine L.onlyIf _ (L.tail_append (L.tail_append (L.tail_append (L.syntax_text (by decide)) ?_) ?_)
    (L.syntax_text (by decide)))
  · exact L.onlyIf _ (L.syntax_text (by decide))
  · exact L.tail_separated (by decide) definitions each

theorem materialization (hint : Option Bool) : T (.materialization d hint) := by
  cases hint with
  | none => exact L.empty
  | some hint =>
      refine L.onlyIf _ (L.syntax_text ?_)
      cases hint <;> decide

theorem checkWidth (node : Node) (columns : List String) (branch : CteBranch) (q : Query) :
    T (.checkWidth node columns branch q) := by
  unfold Script.checkWidth
  split
  · exact L.empty
  · exact L.require _ _

theorem direction (direction : Option Direction) : T (.direction direction) := by
  rcases direction with _ | _ | _
  · exact L.empty
  · exact L.syntax_text (by decide)
  · exact L.syntax_text (by decide)

theorem nullPlace (nulls : Option NullPlace) : T (.nullPlace nulls) := by
  rcases nulls with _ | _ | _
  · exact L.empty
  · exact L.syntax_text (by decide)
  · exact L.syntax_text (by decide)

theorem bounds (limit offset : Option Int64) : T (.bounds d limit offset) := by
  rcases limit with _ | n <;> rcases offset with _ | m
  · exact L.empty
  · refine L.behind ?_ (L.integer m)
    cases d <;> decide
  · exact L.behind (by decide) (L.integer n)
  · exact L.tail_infix_text (L.behind (by decide) (L.integer n)) (by decide) (L.integer m)

theorem column (bare : List String) (qualifier name : String) (qualified : t.name qualifier)
    (named : t.name name) : P (.column d bare qualifier name) :=
  L.of_tail (L.tail_append
    (L.onlyIf _ (L.tail_append (L.ident qualified) (L.syntax_text (by decide)))) (L.ident named))

theorem proposed (name : String) (named : t.name name) : P (.proposed d name) := by
  have written := L.of_tail (L.ident named)
  cases d with
  | mysql => exact L.of_tail (L.enclosed (by decide) written)
  | sqlite => exact L.of_tail (L.behind (by decide) written)
  | postgres => exact L.of_tail (L.behind (by decide) written)

theorem outputs (bare : List String) (list : List Field)
    (each : ∀ f ∈ list, FieldFits d t known P f) :
    ∀ s ∈ Field.outputs d bare list, P s := by
  rw [Field.outputs_eq_map]
  intro s member
  obtain ⟨f, present, rfl⟩ := List.mem_map.mp member
  exact L.append ((each f present).script bare) (L.asClause f.asName (each f present).asName)

theorem orderings (list : List Field) (each : ∀ f ∈ list, FieldFits d t known P f) :
    ∀ s ∈ Field.orderings d list, P s := by
  rw [Field.orderings_eq_map]
  intro s member
  obtain ⟨f, present, rfl⟩ := List.mem_map.mp member
  refine L.append (L.append ((each f present).script []) (L.direction f.direction)) ?_
  split
  · exact L.failure _
  · exact L.nullPlace f.nulls

theorem rows (bare : List String) (list : List (List Field))
    (each : ∀ row ∈ list, ∀ f ∈ row, FieldFits d t known P f) :
    ∀ s ∈ Field.rows d bare list, P s := by
  rw [Field.rows_eq_map]
  intro s member
  obtain ⟨row, present, rfl⟩ := List.mem_map.mp member
  rw [← Field.scripts_eq_map]
  exact L.of_tail (L.parens (L.separated (by decide) _ (fields_fit bare row (each row present))))

theorem whereClause {k : String} (start : isSyntax 0 k = true) (list : List Predicate)
    (each : ∀ p ∈ list, ∀ bare place, P (p.script d bare place)) :
    T (.conditions k (Predicate.scripts d [] (Predicate.memberPlace true list) list)) :=
  L.conditions start _ (predicates_fit [] _ list each)

theorem columnNames (node : Node) (first : Bool) (list : List Field)
    (each : ∀ f ∈ list, FieldFits d t known P f) : T (Field.columnNames d node first list) := by
  induction list generalizing first with
  | nil => exact L.empty
  | cons f rest ih =>
      refine L.tail_append ?_ (ih false fun x member => each x (List.mem_cons_of_mem f member))
      rcases f with ⟨expr, asName, direction, nulls⟩
      have named := (each _ List.mem_cons_self).expr
      cases expr with
      | column table tableAlias name type =>
          exact L.tail_append (L.onlyIf _ (L.syntax_text (by decide))) (L.ident named.2.2)
      | proposed name => exact L.failure _
      | value v => exact L.failure _
      | shared name v => exact L.failure _
      | template format operands => exact L.failure _
      | scalar query => exact L.failure _

theorem sourceClause {k : String} (start : isSyntax 0 k = true) (source : Option Source)
    (each : ∀ x ∈ source, T (x.script d)) : T (Source.clause d k source) := by
  cases source with
  | none => exact L.empty
  | some source => exact L.behind start (L.of_tail (each source rfl))

theorem joinsClause (joins : List Join) (each : ∀ j ∈ joins, P (j.script d)) :
    T (.joinsClause (Join.scripts d joins)) := by
  refine L.onlyIf _ (L.behind (by decide) (L.separated (by decide) _ ?_))
  rw [Join.scripts_eq_map]
  intro s member
  obtain ⟨j, present, rfl⟩ := List.mem_map.mp member
  exact each j present

theorem cteList (ctes : List Cte) (each : ∀ c ∈ ctes, T (c.script d)) :
    T (.withClause ctes (Cte.scripts d ctes)) := by
  refine L.withClause ctes _ ?_
  rw [Cte.scripts_eq_map]
  intro s member
  obtain ⟨c, present, rfl⟩ := List.mem_map.mp member
  exact each c present

theorem returning (bare : List String) (list : List Field)
    (each : ∀ f ∈ list, FieldFits d t known P f) :
    T (.listClause " RETURNING " (Field.outputs d bare list)) :=
  L.listClause (by decide) _ (L.outputs bare list each)

theorem join (j : Join) (kind : t.joinKind j.kind) (source : T (j.source.script d))
    (each : ∀ p ∈ j.conditions, ∀ bare place, P (p.script d bare place)) : P (j.script d) := by
  rcases j with ⟨kind', source', conditions'⟩
  refine L.append (L.append ?_ source) (L.whereClause (by decide) conditions' each)
  cases kind' with
  | inner => exact L.of_tail (L.syntax_text (by decide))
  | left => exact L.of_tail (L.syntax_text (by decide))
  | right => exact L.of_tail (L.syntax_text (by decide))
  | full => exact L.of_tail (L.syntax_text (by decide))
  | custom keyword => exact L.keyword kind

theorem cte (name : String) (asName : Option String) (columns : List String) (body : CteBody)
    (hint : Option Bool) (named : t.name name) (columnsNamed : ∀ c ∈ columns, t.name c)
    (inner : P (body.script d name columns)) :
    T (Cte.script d ⟨name, asName, columns, body, hint⟩) := by
  have list : ∀ s ∈ columns.map (Script.ident d), T s := by
    intro s member
    obtain ⟨column, present, rfl⟩ := List.mem_map.mp member
    exact L.ident (columnsNamed column present)
  have columnList : T (.onlyIf (!columns.isEmpty)
      (.text " " ++ .parens (.separated ", " (columns.map (.ident d))))) :=
    L.onlyIf _ (L.behind (by decide) (L.of_tail (L.parens
      (L.of_tail (L.tail_separated (by decide) _ list)))))
  exact L.tail_append (L.tail_append (L.tail_append (L.tail_append (L.ident named) columnList)
    (L.syntax_text (by decide))) (L.materialization hint)) (L.parens inner)

theorem predicate_compare (left : Field) (op : Comparison) (right : Field)
    (l : FieldFits d t known P left) (r : FieldFits d t known P right) (bare : List String)
    (place : Option Bool) : P (Predicate.script d bare place (.compare left op right)) := by
  simp only [Predicate.script]
  refine L.infix_text (l.script bare) ?_ (r.script bare)
  cases op <;> decide

theorem predicate_in (field : Field) (negated : Bool) (inner : Script)
    (f : FieldFits d t known P field) (i : P inner) (bare : List String) :
    P (field.script d bare ++ .text (if negated then " NOT IN (" else " IN (") ++ inner ++
      .text ")") := by
  have opening : isSyntax 1 (if negated then " NOT IN (" else " IN (") = true := by
    cases negated <;> decide
  rw [Script.append_assoc, Script.append_assoc, ← Script.append_assoc (.text _)]
  exact L.append (f.script bare) (L.enclosed opening i)

theorem insertValues (table : Table) (columns : List Field) (rows : List (List Field))
    (source : Option Select) (s : ∀ x ∈ source, T (x.script d))
    (r : ∀ row ∈ rows, ∀ f ∈ row, FieldFits d t known P f) :
    T (if source.isSome then Select.clause d source
      else if !rows.isEmpty then
        .text " VALUES " ++ .separated ", " (Field.rows d [table.qualifier] rows)
      else if !columns.isEmpty then
        .failure (.malformed (.insert table.name) .columnsWithoutValues)
      else .text (if d == .mysql then " () VALUES ()" else " DEFAULT VALUES")) := by
  split
  · cases source with
    | none => exact L.empty
    | some source => exact L.behind (by decide) (L.of_tail (s source rfl))
  · split
    · exact L.behind (by decide) (L.separated (by decide) _ (L.rows [table.qualifier] rows r))
    · split
      · exact L.failure _
      · refine L.syntax_text ?_
        cases d <;> decide

theorem conflict (table : Table) (c : Option Conflict)
    (target : ∀ x ∈ c, ∀ f ∈ x.target, FieldFits d t known P f)
    (upsert : ∀ x ∈ c, ∀ a ∈ x.action.assignments, ∀ targetBare valueBare,
      P (a.script d targetBare valueBare)) : T (Conflict.clause d table c) := by
  rcases c with _ | ⟨fields, action⟩
  · exact L.empty
  have list := upsert _ rfl
  have updates : ∀ s ∈ ConflictAction.scripts d [table.qualifier] action, P s := by
    cases action with
    | nothing => exact List.forall_mem_nil _
    | update assignments => exact assignments_fit _ _ assignments list
  have set (keyword : String) (start : isSyntax 0 keyword = true) :
      T (.require (!(ConflictAction.scripts d [table.qualifier] action).isEmpty)
          (.malformed (.insert table.name) .emptyUpsert) ++
        .text keyword ++ .separated ", " (ConflictAction.scripts d [table.qualifier] action)) :=
    L.tail_infix_text (L.require _ _) start (L.separated (by decide) _ updates)
  have names := L.columnNames (.insert table.name) true fields (target _ rfl)
  simp only [Conflict.clause, Conflict.script]
  split
  · refine L.tail_append (L.tail_append (L.syntax_text (by decide)) ?_) ?_
    · exact L.onlyIf _ (L.behind (by decide) (L.of_tail (L.parens (L.of_tail names))))
    · cases action with
      | nothing => exact L.syntax_text (by decide)
      | update assignments => exact L.tail_append (L.require _ _) (set _ (by decide))
  · cases action with
    | nothing => exact L.empty
    | update assignments => exact set _ (by decide)

/-! ### Expressions -/

theorem script_column {table tableAlias name : String} {type : ColumnType}
    (texts : t.expr (.column table tableAlias name type)) (bare : List String) :
    P ((Expr.column table tableAlias name type).script d bare) := by
  simp only [Expr.script]
  refine L.column bare _ name ?_ texts.2.2
  simp only [Expr.qualifier]
  split
  · exact texts.1
  · exact texts.2.1

theorem script_proposed {name : String} (texts : t.expr (.proposed name)) (bare : List String) :
    P ((Expr.proposed name).script d bare) := by
  simp only [Expr.script]
  exact L.proposed name texts

theorem script_value (v : Value) (bare : List String) : P ((Expr.value v).script d bare) := by
  simp only [Expr.script]
  exact L.value v

theorem script_shared {name : String} {v : Value} (texts : t.expr (.shared name v))
    (bare : List String) : P ((Expr.shared name v).script d bare) := by
  simp only [Expr.script]
  exact L.shared texts

theorem script_scalar {query : Query} (inner : T (query.script d)) (bare : List String) :
    P ((Expr.scalar query).script d bare) := by
  simp only [Expr.script]
  exact L.of_tail (L.parens (L.of_tail inner))

/-! ### Nodes -/

theorem hereditary {rule : NodeProperty} (implied : t.ImpliedBy rule)
    (exprs : rule.ExprSteps (property d t known P T)) :
    rule.Hereditary (property d t known P T) where
  toExprSteps := exprs
  field f named inner := by
    refine ⟨inner.texts, inner.known, implied.field f named, fun bare => ?_⟩
    rw [Field.script_eq]
    exact inner.script bare
  compare left op right _ l r := L.predicate_compare left op right l r
  isNull field negated _ f bare place := by
    simp only [Predicate.script]
    refine L.append (f.script bare) (L.syntax_text ?_)
    cases negated <;> decide
  inList field values negated _ f vs bare place := by
    simp only [Predicate.script]
    split
    · exact L.of_tail (L.failure _)
    · exact L.predicate_in field negated _ f (L.separated (by decide) _ (fields_fit bare values vs))
        bare
  inQuery field query negated _ f q bare place := by
    simp only [Predicate.script]
    exact L.predicate_in field negated _ f (L.of_tail (query_fits query q)) bare
  between field low high negated _ f l u bare place := by
    simp only [Predicate.script]
    refine L.infix_text (L.infix_text (f.script bare) ?_ (l.script bare)) (by decide)
      (u.script bare)
    cases negated <;> decide
  existsRow query negated _ q bare place := by
    simp only [Predicate.script]
    refine L.of_tail (L.enclosed ?_ (L.of_tail (query_fits query q)))
    cases negated <;> decide
  not inner _ p bare place := by
    simp only [Predicate.script]
    exact L.of_tail (L.onlyIf _ (L.enclosed (by decide) (p bare none)))
  group op members toplevel _ ps bare place := by
    simp only [Predicate.script]
    exact L.group op _ _ (predicates_fit bare _ members ps)
  holds field _ f bare place := by
    simp only [Predicate.script]
    exact f.script bare
  table x named := by
    simp only [property, Source.script]
    exact L.table x (implied.source _ named)
  subquery query name named q := by
    simp only [property, Source.script]
    exact L.tail_infix_text (L.parens (L.of_tail (query_fits query q))) (by decide)
      (L.of_tail (L.ident (implied.source _ named)))
  cteSource name asName named := by
    obtain ⟨own, renamed⟩ := implied.source _ named
    simp only [property, Source.script]
    exact L.tail_append (L.ident own) (L.asClause asName renamed)
  plainCte name asName columns query hint named q := by
    obtain ⟨own, -, columnsNamed⟩ := implied.cte _ named
    refine L.cte name asName columns _ hint own columnsNamed ?_
    cases query with
    | none => exact L.of_tail (L.syntax_text (by decide))
    | some query =>
        exact L.of_tail (L.tail_append (L.checkWidth _ columns _ query)
          (query_fits query (q query rfl)))
  recursiveCte name asName columns initial step hint named i s := by
    obtain ⟨own, -, columnsNamed⟩ := implied.cte _ named
    refine L.cte name asName columns _ hint own columnsNamed ?_
    rcases initial with _ | initial
    · exact L.of_tail (L.failure _)
    rcases step with _ | ⟨kind, step⟩
    · exact L.of_tail (L.failure _)
    have between : isSyntax 0 kind.separator = true := by cases kind <;> decide
    exact L.infix_text (L.of_tail (L.tail_append
      (L.tail_append (L.checkWidth _ columns _ initial) (L.checkWidth _ columns _ step))
      (query_fits initial (i initial rfl)))) between
      (L.of_tail (query_fits step (s _ rfl)))
  join j kind source ps := L.join j (implied.join j kind) source ps
  assignment a _ target value targetBare valueBare := by
    rcases a with ⟨target', value'⟩
    exact L.infix_text (target.script targetBare) (by decide) (value.script valueBare)
  select s _ parts := by
    rcases s with ⟨ctes, distinct, fields, source, joins, conditions, grouping, having, ordering,
      limit, offset⟩
    have start : isSyntax 0 (if distinct then "SELECT DISTINCT " else "SELECT ") = true := by
      cases distinct <;> decide
    -- peeled off from the end, clause by clause
    simp only [property, Select.script]
    refine L.tail_append ?_ (L.bounds limit offset)
    refine L.tail_append ?_ (L.listClause (by decide) _ (L.orderings ordering parts.ordering))
    refine L.tail_append ?_ (L.whereClause (by decide) having parts.having)
    refine L.tail_append ?_ (L.listClause (by decide) _ (fields_fit [] grouping parts.grouping))
    refine L.tail_append ?_ (L.whereClause (by decide) conditions parts.conditions)
    refine L.tail_append ?_ (L.joinsClause joins parts.joins)
    refine L.tail_append ?_ (L.require _ _)
    refine L.tail_append ?_ (L.sourceClause (by decide) source parts.source)
    refine L.tail_infix_text ?_ start (L.separated (by decide) _ (L.outputs [] fields parts.fields))
    refine L.tail_append ?_ (L.cteList ctes parts.ctes)
    exact L.tail_append (L.require _ _) (L.require _ _)
  insert i named parts := by
    have texts := implied.insert i named
    rcases i with ⟨ctes, table, columns, rows, source, conflict, returning, fault⟩
    simp only [property, Insert.script]
    refine L.tail_append ?_ (L.returning [table.qualifier] returning parts.returning)
    refine L.tail_append ?_ (L.conflict table conflict parts.target parts.upsert)
    refine L.tail_append ?_ (L.insertValues table columns rows source parts.source parts.rows)
    refine L.tail_append ?_ (L.onlyIf _ (L.behind (by decide) (L.of_tail (L.parens (L.of_tail
      (L.columnNames _ true columns parts.columns))))))
    refine L.tail_append (L.tail_append ?_ (L.syntax_text ?_)) ?_
    · refine L.tail_append (L.tail_append ?_ (L.require _ _)) (L.cteList ctes parts.ctes)
      cases fault with
      | none => exact L.empty
      | some fault => exact L.failure _
    · split <;> decide
    · split
      · exact L.tableName table texts
      · exact L.table table texts
  update u named parts := by
    have texts := implied.update u named
    rcases u with ⟨ctes, table, assignments, source, joins, conditions, returning⟩
    have from_ {k : String} (start : isSyntax 0 k = true) := L.sourceClause start source parts.source
    have set (targetBare valueBare : List String) : P (.separated ", "
        (Assignment.scripts d targetBare valueBare assignments)) :=
      L.separated (by decide) _ (assignments_fit _ _ assignments parts.assignments)
    simp only [property, Update.script]
    refine L.tail_append ?_ (L.returning _ returning parts.returning)
    refine L.tail_append ?_ (L.whereClause (by decide) conditions parts.conditions)
    refine L.tail_append ?_ ?_
    · refine L.tail_append (L.tail_append ?_ (L.syntax_text (by decide))) (L.table table texts)
      exact L.tail_append (L.tail_append (L.require _ _) (L.require _ _)) (L.cteList ctes parts.ctes)
    · split
      · refine L.tail_infix_text ?_ (by decide) (set _ _)
        exact L.tail_append (from_ (by decide)) (L.joinsClause joins parts.joins)
      · refine L.tail_append (L.tail_append (L.tail_append ?_ (from_ (by decide)))
          (L.require _ _)) (L.joinsClause joins parts.joins)
        exact L.behind (by decide) (set _ _)
  delete q named parts := by
    have texts := implied.delete q named
    rcases q with ⟨ctes, table, conditions, returning, everyRow⟩
    simp only [property, Delete.script]
    refine L.tail_append ?_ (L.returning _ returning parts.returning)
    refine L.tail_append ?_ (L.whereClause (by decide) conditions parts.conditions)
    refine L.tail_append (L.tail_append ?_ (L.syntax_text (by decide))) (L.table table texts)
    exact L.tail_append (L.tail_append (L.require _ _) (L.require _ _)) (L.cteList ctes parts.ctes)

end Frame

namespace Layout

variable {d : Dialect} {t : TextRule} {P T : Script → Prop} (L : Layout d t P T)

include L

theorem hereditary : t.everywhere.Hereditary (Frame.property d t (fun _ => True) P T) :=
  L.toFrame.hereditary
    { field := fun _ named => named
      source := fun _ named => named
      cte := fun _ named => named
      join := fun _ named => named
      insert := fun _ named => named
      update := fun _ named => named
      delete := fun _ named => named }
    { column := fun _ _ _ _ named => ⟨named, trivial, L.script_column named⟩
      proposed := fun _ named => ⟨named, trivial, L.script_proposed named⟩
      value := fun v _ => ⟨trivial, trivial, L.script_value v⟩
      shared := fun _ _ allowed => ⟨allowed, trivial, L.script_shared allowed⟩
      template := fun format operands allowed each => by
        refine ⟨allowed, trivial, fun bare => ?_⟩
        simp only [Expr.script]
        refine L.template ?_ (Frame.fields_fit bare operands each)
        rw [Field.scripts_eq_map, List.length_map]
        exact allowed
      scalar := fun query _ inner =>
        ⟨trivial, trivial, L.script_scalar (Frame.query_fits query inner)⟩ }

/-- What passes along the layout holds of every statement whose texts obey the rule. -/
theorem query (q : Query) (each : q.Each t.everywhere) : T (q.script d) :=
  Frame.query_fits q (L.hereditary.of_query q each)

end Layout

end SqlTree
