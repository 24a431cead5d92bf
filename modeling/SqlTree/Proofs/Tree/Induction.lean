import SqlTree.Tree.Basic

/-!
Induction over statements. A property of every kind of node that passes from the parts of a node to
the node itself holds of whole trees; a rule says which nodes a tree may have.
-/

namespace SqlTree

def ConflictAction.assignments : ConflictAction → List Assignment
  | .nothing => []
  | .update assignments => assignments

/-- One property for each kind of node. -/
structure NodeProperty where
  expr : Expr → Prop := fun _ => True
  field : Field → Prop := fun _ => True
  predicate : Predicate → Prop := fun _ => True
  source : Source → Prop := fun _ => True
  cte : Cte → Prop := fun _ => True
  join : Join → Prop := fun _ => True
  assignment : Assignment → Prop := fun _ => True
  select : Select → Prop := fun _ => True
  insert : Insert → Prop := fun _ => True
  update : Update → Prop := fun _ => True
  delete : Delete → Prop := fun _ => True

def NodeProperty.query (m : NodeProperty) : Query → Prop
  | .select s => m.select s
  | .insert i => m.insert i
  | .update u => m.update u
  | .delete d => m.delete d

/-- What `m` says of the parts of a SELECT. -/
structure Select.Parts (m : NodeProperty) (s : Select) : Prop where
  ctes : ∀ c ∈ s.ctes, m.cte c
  fields : ∀ f ∈ s.fields, m.field f
  source : ∀ x ∈ s.source, m.source x
  joins : ∀ j ∈ s.joins, m.join j
  conditions : ∀ p ∈ s.conditions, m.predicate p
  grouping : ∀ f ∈ s.grouping, m.field f
  having : ∀ p ∈ s.having, m.predicate p
  ordering : ∀ f ∈ s.ordering, m.field f

structure Insert.Parts (m : NodeProperty) (i : Insert) : Prop where
  ctes : ∀ c ∈ i.ctes, m.cte c
  columns : ∀ f ∈ i.columns, m.field f
  rows : ∀ row ∈ i.rows, ∀ f ∈ row, m.field f
  source : ∀ s ∈ i.source, m.select s
  target : ∀ c ∈ i.conflict, ∀ f ∈ c.target, m.field f
  upsert : ∀ c ∈ i.conflict, ∀ a ∈ c.action.assignments, m.assignment a
  returning : ∀ f ∈ i.returning, m.field f

structure Update.Parts (m : NodeProperty) (u : Update) : Prop where
  ctes : ∀ c ∈ u.ctes, m.cte c
  assignments : ∀ a ∈ u.assignments, m.assignment a
  source : ∀ x ∈ u.source, m.source x
  joins : ∀ j ∈ u.joins, m.join j
  conditions : ∀ p ∈ u.conditions, m.predicate p
  returning : ∀ f ∈ u.returning, m.field f

structure Delete.Parts (m : NodeProperty) (d : Delete) : Prop where
  ctes : ∀ c ∈ d.ctes, m.cte c
  conditions : ∀ p ∈ d.conditions, m.predicate p
  returning : ∀ f ∈ d.returning, m.field f

structure NodeProperty.ExprSteps (rule m : NodeProperty) : Prop where
  column : ∀ table tableAlias name type, rule.expr (.column table tableAlias name type) →
    m.expr (.column table tableAlias name type)
  proposed : ∀ name, rule.expr (.proposed name) → m.expr (.proposed name)
  value : ∀ v, rule.expr (.value v) → m.expr (.value v)
  shared : ∀ name v, rule.expr (.shared name v) → m.expr (.shared name v)
  template : ∀ format operands, rule.expr (.template format operands) →
    (∀ f ∈ operands, m.field f) → m.expr (.template format operands)
  scalar : ∀ query, rule.expr (.scalar query) → m.query query → m.expr (.scalar query)

/-- Among nodes that obey the rule, `m` passes from the parts of a node to the node. -/
structure NodeProperty.Hereditary (rule m : NodeProperty) : Prop extends ExprSteps rule m where
  field : ∀ f : Field, rule.field f → m.expr f.expr → m.field f
  compare : ∀ left op right, rule.predicate (.compare left op right) → m.field left →
    m.field right → m.predicate (.compare left op right)
  isNull : ∀ field negated, rule.predicate (.isNull field negated) → m.field field →
    m.predicate (.isNull field negated)
  inList : ∀ field values negated, rule.predicate (.inList field values negated) →
    m.field field → (∀ f ∈ values, m.field f) → m.predicate (.inList field values negated)
  inQuery : ∀ field query negated, rule.predicate (.inQuery field query negated) →
    m.field field → m.query query → m.predicate (.inQuery field query negated)
  between : ∀ field low high negated, rule.predicate (.between field low high negated) →
    m.field field → m.field low → m.field high → m.predicate (.between field low high negated)
  existsRow : ∀ query negated, rule.predicate (.existsRow query negated) → m.query query →
    m.predicate (.existsRow query negated)
  not : ∀ inner, rule.predicate (.not inner) → m.predicate inner → m.predicate (.not inner)
  group : ∀ op members toplevel, rule.predicate (.group op members toplevel) →
    (∀ p ∈ members, m.predicate p) → m.predicate (.group op members toplevel)
  holds : ∀ field, rule.predicate (.holds field) → m.field field → m.predicate (.holds field)
  table : ∀ t, rule.source (.table t) → m.source (.table t)
  subquery : ∀ query name, rule.source (.subquery query name) → m.query query →
    m.source (.subquery query name)
  cteSource : ∀ name asName, rule.source (.cte name asName) → m.source (.cte name asName)
  plainCte : ∀ name asName columns query hint,
    rule.cte ⟨name, asName, columns, .plain query, hint⟩ → (∀ q ∈ query, m.query q) →
    m.cte ⟨name, asName, columns, .plain query, hint⟩
  recursiveCte : ∀ name asName columns initial step hint,
    rule.cte ⟨name, asName, columns, .recursive initial step, hint⟩ →
    (∀ q ∈ initial, m.query q) → (∀ s ∈ step, m.query s.query) →
    m.cte ⟨name, asName, columns, .recursive initial step, hint⟩
  join : ∀ j : Join, rule.join j → m.source j.source → (∀ p ∈ j.conditions, m.predicate p) →
    m.join j
  assignment : ∀ a : Assignment, rule.assignment a → m.field a.target → m.field a.value →
    m.assignment a
  select : ∀ s : Select, rule.select s → s.Parts m → m.select s
  insert : ∀ i : Insert, rule.insert i → i.Parts m → m.insert i
  update : ∀ u : Update, rule.update u → u.Parts m → m.update u
  delete : ∀ d : Delete, rule.delete d → d.Parts m → m.delete d

mutual

def Expr.Each (rule : NodeProperty) : Expr → Prop
  | .column table tableAlias name type => rule.expr (.column table tableAlias name type)
  | .proposed name => rule.expr (.proposed name)
  | .value v => rule.expr (.value v)
  | .shared name v => rule.expr (.shared name v)
  | .template format operands =>
      rule.expr (.template format operands) ∧ Field.EachOf rule operands
  | .scalar query => rule.expr (.scalar query) ∧ query.Each rule

def Field.Each (rule : NodeProperty) : Field → Prop
  | ⟨expr, asName, direction, nulls⟩ =>
      rule.field ⟨expr, asName, direction, nulls⟩ ∧ expr.Each rule

def Field.EachOf (rule : NodeProperty) : List Field → Prop
  | [] => True
  | f :: rest => f.Each rule ∧ Field.EachOf rule rest

def Field.EachRow (rule : NodeProperty) : List (List Field) → Prop
  | [] => True
  | row :: rest => Field.EachOf rule row ∧ Field.EachRow rule rest

def Predicate.Each (rule : NodeProperty) : Predicate → Prop
  | .compare left op right =>
      rule.predicate (.compare left op right) ∧ left.Each rule ∧ right.Each rule
  | .isNull field negated => rule.predicate (.isNull field negated) ∧ field.Each rule
  | .inList field values negated =>
      rule.predicate (.inList field values negated) ∧ field.Each rule ∧ Field.EachOf rule values
  | .inQuery field query negated =>
      rule.predicate (.inQuery field query negated) ∧ field.Each rule ∧ query.Each rule
  | .between field low high negated =>
      rule.predicate (.between field low high negated) ∧ field.Each rule ∧ low.Each rule ∧
        high.Each rule
  | .existsRow query negated => rule.predicate (.existsRow query negated) ∧ query.Each rule
  | .not inner => rule.predicate (.not inner) ∧ inner.Each rule
  | .group op members toplevel =>
      rule.predicate (.group op members toplevel) ∧ Predicate.EachOf rule members
  | .holds field => rule.predicate (.holds field) ∧ field.Each rule

def Predicate.EachOf (rule : NodeProperty) : List Predicate → Prop
  | [] => True
  | p :: rest => p.Each rule ∧ Predicate.EachOf rule rest

def Source.Each (rule : NodeProperty) : Source → Prop
  | .table t => rule.source (.table t)
  | .subquery query name => rule.source (.subquery query name) ∧ query.Each rule
  | .cte name asName => rule.source (.cte name asName)

def Source.EachOption (rule : NodeProperty) : Option Source → Prop
  | none => True
  | some source => source.Each rule

def Query.EachOption (rule : NodeProperty) : Option Query → Prop
  | none => True
  | some query => query.Each rule

def RecursiveStep.EachOption (rule : NodeProperty) : Option RecursiveStep → Prop
  | none => True
  | some ⟨_, query⟩ => query.Each rule

def CteBody.Each (rule : NodeProperty) : CteBody → Prop
  | .plain query => Query.EachOption rule query
  | .recursive initial step => Query.EachOption rule initial ∧ RecursiveStep.EachOption rule step

def Cte.Each (rule : NodeProperty) : Cte → Prop
  | ⟨name, asName, columns, body, hint⟩ =>
      rule.cte ⟨name, asName, columns, body, hint⟩ ∧ body.Each rule

def Cte.EachOf (rule : NodeProperty) : List Cte → Prop
  | [] => True
  | c :: rest => c.Each rule ∧ Cte.EachOf rule rest

def Join.Each (rule : NodeProperty) : Join → Prop
  | ⟨kind, source, conditions⟩ =>
      rule.join ⟨kind, source, conditions⟩ ∧ source.Each rule ∧ Predicate.EachOf rule conditions

def Join.EachOf (rule : NodeProperty) : List Join → Prop
  | [] => True
  | j :: rest => j.Each rule ∧ Join.EachOf rule rest

def Assignment.Each (rule : NodeProperty) : Assignment → Prop
  | ⟨target, value⟩ => rule.assignment ⟨target, value⟩ ∧ target.Each rule ∧ value.Each rule

def Assignment.EachOf (rule : NodeProperty) : List Assignment → Prop
  | [] => True
  | a :: rest => a.Each rule ∧ Assignment.EachOf rule rest

def ConflictAction.Each (rule : NodeProperty) : ConflictAction → Prop
  | .nothing => True
  | .update assignments => Assignment.EachOf rule assignments

def Conflict.EachOption (rule : NodeProperty) : Option Conflict → Prop
  | none => True
  | some ⟨target, action⟩ => Field.EachOf rule target ∧ action.Each rule

def Select.Each (rule : NodeProperty) : Select → Prop
  | ⟨ctes, distinct, fields, source, joins, conditions, grouping, having, ordering, limit, offset⟩ =>
      rule.select
        ⟨ctes, distinct, fields, source, joins, conditions, grouping, having, ordering, limit,
          offset⟩ ∧
      Cte.EachOf rule ctes ∧ Field.EachOf rule fields ∧ Source.EachOption rule source ∧
      Join.EachOf rule joins ∧ Predicate.EachOf rule conditions ∧ Field.EachOf rule grouping ∧
      Predicate.EachOf rule having ∧ Field.EachOf rule ordering

def Select.EachOption (rule : NodeProperty) : Option Select → Prop
  | none => True
  | some s => s.Each rule

def Insert.Each (rule : NodeProperty) : Insert → Prop
  | ⟨ctes, table, columns, rows, source, conflict, returning, fault⟩ =>
      rule.insert ⟨ctes, table, columns, rows, source, conflict, returning, fault⟩ ∧
      Cte.EachOf rule ctes ∧ Field.EachOf rule columns ∧ Field.EachRow rule rows ∧
      Select.EachOption rule source ∧ Conflict.EachOption rule conflict ∧
      Field.EachOf rule returning

def Update.Each (rule : NodeProperty) : Update → Prop
  | ⟨ctes, table, assignments, source, joins, conditions, returning⟩ =>
      rule.update ⟨ctes, table, assignments, source, joins, conditions, returning⟩ ∧
      Cte.EachOf rule ctes ∧ Assignment.EachOf rule assignments ∧
      Source.EachOption rule source ∧ Join.EachOf rule joins ∧
      Predicate.EachOf rule conditions ∧ Field.EachOf rule returning

def Delete.Each (rule : NodeProperty) : Delete → Prop
  | ⟨ctes, table, conditions, returning, everyRow⟩ =>
      rule.delete ⟨ctes, table, conditions, returning, everyRow⟩ ∧
      Cte.EachOf rule ctes ∧ Predicate.EachOf rule conditions ∧ Field.EachOf rule returning

def Query.Each (rule : NodeProperty) : Query → Prop
  | .select s => s.Each rule
  | .insert i => i.Each rule
  | .update u => u.Each rule
  | .delete d => d.Each rule

end

namespace NodeProperty.Hereditary

variable {rule m : NodeProperty} (h : Hereditary rule m)

include h

-- used by the mutual block as a whole, where lists only pass it on
set_option linter.unusedSectionVars false

mutual

theorem of_expr : ∀ e : Expr, e.Each rule → m.expr e
  | .column table tableAlias name type, own => h.column table tableAlias name type own
  | .proposed name, own => h.proposed name own
  | .value v, own => h.value v own
  | .shared name v, own => h.shared name v own
  | .template format operands, ⟨own, parts⟩ =>
      h.template format operands own (of_fields operands parts)
  | .scalar query, ⟨own, parts⟩ => h.scalar query own (of_query query parts)

theorem of_field : ∀ f : Field, f.Each rule → m.field f
  | ⟨expr, asName, direction, nulls⟩, ⟨own, parts⟩ =>
      h.field ⟨expr, asName, direction, nulls⟩ own (of_expr expr parts)

theorem of_fields : ∀ fields : List Field, Field.EachOf rule fields → ∀ f ∈ fields, m.field f
  | [], _ => List.forall_mem_nil _
  | f :: rest, ⟨first, others⟩ =>
      List.forall_mem_cons.mpr ⟨of_field f first, of_fields rest others⟩

theorem of_rows : ∀ rows : List (List Field), Field.EachRow rule rows →
    ∀ row ∈ rows, ∀ f ∈ row, m.field f
  | [], _ => List.forall_mem_nil _
  | row :: rest, ⟨first, others⟩ =>
      List.forall_mem_cons.mpr ⟨of_fields row first, of_rows rest others⟩

theorem of_predicate : ∀ p : Predicate, p.Each rule → m.predicate p
  | .compare left op right, ⟨own, l, r⟩ =>
      h.compare left op right own (of_field left l) (of_field right r)
  | .isNull field negated, ⟨own, f⟩ => h.isNull field negated own (of_field field f)
  | .inList field values negated, ⟨own, f, vs⟩ =>
      h.inList field values negated own (of_field field f) (of_fields values vs)
  | .inQuery field query negated, ⟨own, f, q⟩ =>
      h.inQuery field query negated own (of_field field f) (of_query query q)
  | .between field low high negated, ⟨own, f, l, u⟩ =>
      h.between field low high negated own (of_field field f) (of_field low l) (of_field high u)
  | .existsRow query negated, ⟨own, q⟩ => h.existsRow query negated own (of_query query q)
  | .not inner, ⟨own, p⟩ => h.not inner own (of_predicate inner p)
  | .group op members toplevel, ⟨own, ps⟩ =>
      h.group op members toplevel own (of_predicates members ps)
  | .holds field, ⟨own, f⟩ => h.holds field own (of_field field f)

theorem of_predicates : ∀ list : List Predicate, Predicate.EachOf rule list →
    ∀ p ∈ list, m.predicate p
  | [], _ => List.forall_mem_nil _
  | p :: rest, ⟨first, others⟩ =>
      List.forall_mem_cons.mpr ⟨of_predicate p first, of_predicates rest others⟩

theorem of_source : ∀ source : Source, source.Each rule → m.source source
  | .table t, own => h.table t own
  | .subquery query name, ⟨own, q⟩ => h.subquery query name own (of_query query q)
  | .cte name asName, own => h.cteSource name asName own

theorem of_source_option : ∀ source : Option Source, Source.EachOption rule source →
    ∀ x ∈ source, m.source x
  | none, _ => fun _ none => nomatch none
  | some source, each => fun _ found => Option.some.inj found ▸ of_source source each

theorem of_query_option : ∀ query : Option Query, Query.EachOption rule query →
    ∀ q ∈ query, m.query q
  | none, _ => fun _ none => nomatch none
  | some query, each => fun _ found => Option.some.inj found ▸ of_query query each

theorem of_step_option : ∀ step : Option RecursiveStep, RecursiveStep.EachOption rule step →
    ∀ s ∈ step, m.query s.query
  | none, _ => fun _ none => nomatch none
  | some ⟨_, query⟩, each => fun _ found => Option.some.inj found ▸ of_query query each

theorem of_cte : ∀ c : Cte, c.Each rule → m.cte c
  | ⟨name, asName, columns, .plain query, hint⟩, ⟨own, q⟩ =>
      h.plainCte name asName columns query hint own (of_query_option query q)
  | ⟨name, asName, columns, .recursive initial step, hint⟩, ⟨own, i, s⟩ =>
      h.recursiveCte name asName columns initial step hint own (of_query_option initial i)
        (of_step_option step s)

theorem of_ctes : ∀ ctes : List Cte, Cte.EachOf rule ctes → ∀ c ∈ ctes, m.cte c
  | [], _ => List.forall_mem_nil _
  | c :: rest, ⟨first, others⟩ => List.forall_mem_cons.mpr ⟨of_cte c first, of_ctes rest others⟩

theorem of_join : ∀ j : Join, j.Each rule → m.join j
  | ⟨kind, source, conditions⟩, ⟨own, s, ps⟩ =>
      h.join ⟨kind, source, conditions⟩ own (of_source source s) (of_predicates conditions ps)

theorem of_joins : ∀ joins : List Join, Join.EachOf rule joins → ∀ j ∈ joins, m.join j
  | [], _ => List.forall_mem_nil _
  | j :: rest, ⟨first, others⟩ => List.forall_mem_cons.mpr ⟨of_join j first, of_joins rest others⟩

theorem of_assignment : ∀ a : Assignment, a.Each rule → m.assignment a
  | ⟨target, value⟩, ⟨own, t, v⟩ =>
      h.assignment ⟨target, value⟩ own (of_field target t) (of_field value v)

theorem of_assignments : ∀ list : List Assignment, Assignment.EachOf rule list →
    ∀ a ∈ list, m.assignment a
  | [], _ => List.forall_mem_nil _
  | a :: rest, ⟨first, others⟩ =>
      List.forall_mem_cons.mpr ⟨of_assignment a first, of_assignments rest others⟩

theorem of_action : ∀ action : ConflictAction, action.Each rule →
    ∀ a ∈ action.assignments, m.assignment a
  | .nothing, _ => List.forall_mem_nil _
  | .update assignments, each => of_assignments assignments each

theorem of_target : ∀ conflict : Option Conflict, Conflict.EachOption rule conflict →
    ∀ c ∈ conflict, ∀ f ∈ c.target, m.field f
  | none, _ => fun _ none => nomatch none
  | some ⟨target, _⟩, ⟨fields, _⟩ => fun _ found => Option.some.inj found ▸ of_fields target fields

theorem of_upsert : ∀ conflict : Option Conflict, Conflict.EachOption rule conflict →
    ∀ c ∈ conflict, ∀ a ∈ c.action.assignments, m.assignment a
  | none, _ => fun _ none => nomatch none
  | some ⟨_, action⟩, ⟨_, each⟩ => fun _ found => Option.some.inj found ▸ of_action action each

theorem of_select : ∀ s : Select, s.Each rule → m.select s
  | ⟨ctes, _, fields, source, joins, conditions, grouping, having, ordering, _, _⟩,
    ⟨own, cs, fs, x, js, ps, gs, hs, os⟩ =>
      h.select _ own
        { ctes := of_ctes ctes cs
          fields := of_fields fields fs
          source := of_source_option source x
          joins := of_joins joins js
          conditions := of_predicates conditions ps
          grouping := of_fields grouping gs
          having := of_predicates having hs
          ordering := of_fields ordering os }

theorem of_select_option : ∀ s : Option Select, Select.EachOption rule s → ∀ x ∈ s, m.select x
  | none, _ => fun _ none => nomatch none
  | some s, each => fun _ found => Option.some.inj found ▸ of_select s each

theorem of_insert : ∀ i : Insert, i.Each rule → m.insert i
  | ⟨ctes, _, columns, rows, source, conflict, returning, _⟩, ⟨own, cs, fs, vs, s, c, os⟩ =>
      h.insert _ own
        { ctes := of_ctes ctes cs
          columns := of_fields columns fs
          rows := of_rows rows vs
          source := of_select_option source s
          target := of_target conflict c
          upsert := of_upsert conflict c
          returning := of_fields returning os }

theorem of_update : ∀ u : Update, u.Each rule → m.update u
  | ⟨ctes, _, assignments, source, joins, conditions, returning⟩, ⟨own, cs, as, x, js, ps, os⟩ =>
      h.update _ own
        { ctes := of_ctes ctes cs
          assignments := of_assignments assignments as
          source := of_source_option source x
          joins := of_joins joins js
          conditions := of_predicates conditions ps
          returning := of_fields returning os }

theorem of_delete : ∀ d : Delete, d.Each rule → m.delete d
  | ⟨ctes, _, conditions, returning, _⟩, ⟨own, cs, ps, os⟩ =>
      h.delete _ own
        { ctes := of_ctes ctes cs
          conditions := of_predicates conditions ps
          returning := of_fields returning os }

theorem of_query : ∀ q : Query, q.Each rule → m.query q
  | .select s, each => of_select s each
  | .insert i, each => of_insert i each
  | .update u, each => of_update u each
  | .delete d, each => of_delete d each

end

end NodeProperty.Hereditary

/-- A rule that every node obeys. -/
structure NodeProperty.Always (rule : NodeProperty) : Prop where
  expr : ∀ e, rule.expr e := by exact fun _ => trivial
  field : ∀ f, rule.field f := by exact fun _ => trivial
  predicate : ∀ p, rule.predicate p := by exact fun _ => trivial
  source : ∀ s, rule.source s := by exact fun _ => trivial
  cte : ∀ c, rule.cte c := by exact fun _ => trivial
  join : ∀ j, rule.join j := by exact fun _ => trivial
  assignment : ∀ a, rule.assignment a := by exact fun _ => trivial
  select : ∀ s, rule.select s := by exact fun _ => trivial
  insert : ∀ i, rule.insert i := by exact fun _ => trivial
  update : ∀ u, rule.update u := by exact fun _ => trivial
  delete : ∀ d, rule.delete d := by exact fun _ => trivial

namespace NodeProperty.Always

variable {rule : NodeProperty} (h : Always rule)

include h

set_option linter.unusedSectionVars false

mutual

theorem each_expr : ∀ e : Expr, e.Each rule
  | .column .. | .proposed _ | .value _ | .shared .. => h.expr _
  | .template _ operands => ⟨h.expr _, each_fields operands⟩
  | .scalar query => ⟨h.expr _, each_query query⟩

theorem each_field : ∀ f : Field, f.Each rule
  | ⟨expr, _, _, _⟩ => ⟨h.field _, each_expr expr⟩

theorem each_fields : ∀ fields : List Field, Field.EachOf rule fields
  | [] => trivial
  | f :: rest => ⟨each_field f, each_fields rest⟩

theorem each_rows : ∀ rows : List (List Field), Field.EachRow rule rows
  | [] => trivial
  | row :: rest => ⟨each_fields row, each_rows rest⟩

theorem each_predicate : ∀ p : Predicate, p.Each rule
  | .compare left _ right => ⟨h.predicate _, each_field left, each_field right⟩
  | .isNull field _ => ⟨h.predicate _, each_field field⟩
  | .inList field values _ => ⟨h.predicate _, each_field field, each_fields values⟩
  | .inQuery field query _ => ⟨h.predicate _, each_field field, each_query query⟩
  | .between field low high _ =>
      ⟨h.predicate _, each_field field, each_field low, each_field high⟩
  | .existsRow query _ => ⟨h.predicate _, each_query query⟩
  | .not inner => ⟨h.predicate _, each_predicate inner⟩
  | .group _ members _ => ⟨h.predicate _, each_predicates members⟩
  | .holds field => ⟨h.predicate _, each_field field⟩

theorem each_predicates : ∀ list : List Predicate, Predicate.EachOf rule list
  | [] => trivial
  | p :: rest => ⟨each_predicate p, each_predicates rest⟩

theorem each_source : ∀ source : Source, source.Each rule
  | .table _ | .cte .. => h.source _
  | .subquery query _ => ⟨h.source _, each_query query⟩

theorem each_source_option : ∀ source : Option Source, Source.EachOption rule source
  | none => trivial
  | some source => each_source source

theorem each_query_option : ∀ query : Option Query, Query.EachOption rule query
  | none => trivial
  | some query => each_query query

theorem each_step_option : ∀ step : Option RecursiveStep, RecursiveStep.EachOption rule step
  | none => trivial
  | some ⟨_, query⟩ => each_query query

theorem each_cte : ∀ c : Cte, c.Each rule
  | ⟨_, _, _, .plain query, _⟩ => ⟨h.cte _, each_query_option query⟩
  | ⟨_, _, _, .recursive initial step, _⟩ =>
      ⟨h.cte _, each_query_option initial, each_step_option step⟩

theorem each_ctes : ∀ ctes : List Cte, Cte.EachOf rule ctes
  | [] => trivial
  | c :: rest => ⟨each_cte c, each_ctes rest⟩

theorem each_join : ∀ j : Join, j.Each rule
  | ⟨_, source, conditions⟩ => ⟨h.join _, each_source source, each_predicates conditions⟩

theorem each_joins : ∀ joins : List Join, Join.EachOf rule joins
  | [] => trivial
  | j :: rest => ⟨each_join j, each_joins rest⟩

theorem each_assignment : ∀ a : Assignment, a.Each rule
  | ⟨target, value⟩ => ⟨h.assignment _, each_field target, each_field value⟩

theorem each_assignments : ∀ list : List Assignment, Assignment.EachOf rule list
  | [] => trivial
  | a :: rest => ⟨each_assignment a, each_assignments rest⟩

theorem each_conflict : ∀ conflict : Option Conflict, Conflict.EachOption rule conflict
  | none => trivial
  | some ⟨target, .nothing⟩ => ⟨each_fields target, trivial⟩
  | some ⟨target, .update assignments⟩ => ⟨each_fields target, each_assignments assignments⟩

theorem each_select : ∀ s : Select, s.Each rule
  | ⟨ctes, _, fields, source, joins, conditions, grouping, having, ordering, _, _⟩ =>
      ⟨h.select _, each_ctes ctes, each_fields fields, each_source_option source, each_joins joins,
        each_predicates conditions, each_fields grouping, each_predicates having,
        each_fields ordering⟩

theorem each_select_option : ∀ s : Option Select, Select.EachOption rule s
  | none => trivial
  | some s => each_select s

theorem each_insert : ∀ i : Insert, i.Each rule
  | ⟨ctes, _, columns, rows, source, conflict, returning, _⟩ =>
      ⟨h.insert _, each_ctes ctes, each_fields columns, each_rows rows, each_select_option source,
        each_conflict conflict, each_fields returning⟩

theorem each_update : ∀ u : Update, u.Each rule
  | ⟨ctes, _, assignments, source, joins, conditions, returning⟩ =>
      ⟨h.update _, each_ctes ctes, each_assignments assignments, each_source_option source,
        each_joins joins, each_predicates conditions, each_fields returning⟩

theorem each_delete : ∀ d : Delete, d.Each rule
  | ⟨ctes, _, conditions, returning, _⟩ =>
      ⟨h.delete _, each_ctes ctes, each_predicates conditions, each_fields returning⟩

theorem each_query : ∀ q : Query, q.Each rule
  | .select s => each_select s
  | .insert i => each_insert i
  | .update u => each_update u
  | .delete d => each_delete d

end

end NodeProperty.Always

end SqlTree
