import SqlTree.Proofs.Renderer.Congruence
import SqlTree.Proofs.Tree.Induction
import SqlTree.Tree.Script

/-!
One statement in two dialects. Whatever relation of scripts holds of the few parts that the dialects
write each in its own way, holds of the scripts of the whole statement.
-/

namespace SqlTree

def Field.nullsScript (d : Dialect) (f : Field) : Script :=
  if d == .mysql && f.nulls.isSome then
    .failure (.malformed (.ordering (f.labelOf (f.script .standard []))) .nullsUnsupported)
  else .nullPlace f.nulls

def Insert.intoTable (d : Dialect) (table : Table) (conflict : Option Conflict) : Script :=
  .text (if d == .mysql && ignoresConflicts conflict then "INSERT IGNORE INTO "
    else "INSERT INTO ") ++ if d == .mysql then .tableName d table else .table d table

def Update.sharedBare (u : Update) : List String :=
  if u.source.isSome || !u.joins.isEmpty then [] else [u.table.qualifier]

def Update.changes (d : Dialect) (u : Update) : Script :=
  if d == .mysql then
    Source.clause d ", " u.source ++ .joinsClause (Join.scripts d u.joins) ++ .text " SET " ++
      .separated ", " (Assignment.scripts d u.sharedBare u.sharedBare u.assignments)
  else
    .text " SET " ++
      .separated ", " (Assignment.scripts d [u.table.qualifier] u.sharedBare u.assignments) ++
      Source.clause d " FROM " u.source ++
      .require (u.source.isSome || u.joins.isEmpty)
        (.malformed (.update u.table.name) .joinsWithoutSource) ++
      .joinsClause (Join.scripts d u.joins)

namespace NodeProperty

/-- The scripts of a node in the two dialects are related, whatever related lists of qualifiers they
leave out. -/
def corresponds (d e : Dialect) (R : Script → Script → Prop)
    (bares : List String → List String → Prop) : NodeProperty where
  expr x := ∀ bare other, bares bare other → R (x.script d bare) (x.script e other)
  field f := ∀ bare other, bares bare other → R (f.script d bare) (f.script e other)
  predicate p := ∀ bare other place, bares bare other →
    R (p.script d bare place) (p.script e other place)
  source s := R (s.script d) (s.script e)
  cte c := R (c.script d) (c.script e)
  join j := R (j.script d) (j.script e)
  assignment a := ∀ target target' value value', bares target target' → bares value value' →
    R (a.script d target value) (a.script e target' value')
  select s := R (s.script d) (s.script e)
  insert i := R (i.script d) (i.script e)
  update u := R (u.script d) (u.script e)
  delete q := R (q.script d) (q.script e)

end NodeProperty

section Lists

variable {d e : Dialect} {R : Script → Script → Prop} {bares : List String → List String → Prop}
  {bare other : List String}

namespace NodeProperty.corresponds

theorem query (q : Query) (own : (corresponds d e R bares).query q) :
    R (q.script d) (q.script e) := by
  cases q with
  | select s => exact own
  | insert i => exact own
  | update u => exact own
  | delete q => exact own

theorem fields (related : bares bare other) (list : List Field)
    (each : ∀ f ∈ list, (corresponds d e R bares).field f) :
    List.Forall₂ R (Field.scripts d bare list) (Field.scripts e other list) := by
  rw [Field.scripts_eq_map, Field.scripts_eq_map]
  exact Script.Congruence.map list fun f member => each f member bare other related

theorem predicates (related : bares bare other) (place : Option Bool) (list : List Predicate)
    (each : ∀ p ∈ list, (corresponds d e R bares).predicate p) :
    List.Forall₂ R (Predicate.scripts d bare place list)
      (Predicate.scripts e other place list) := by
  rw [Predicate.scripts_eq_map, Predicate.scripts_eq_map]
  exact Script.Congruence.map _ fun p member =>
    each p (List.mem_filter.mp member).1 bare other place related

theorem assignments {target target' value value' : List String} (left : bares target target')
    (right : bares value value') (list : List Assignment)
    (each : ∀ a ∈ list, (corresponds d e R bares).assignment a) :
    List.Forall₂ R (Assignment.scripts d target value list)
      (Assignment.scripts e target' value' list) := by
  rw [Assignment.scripts_eq_map, Assignment.scripts_eq_map]
  exact Script.Congruence.map list fun a member => each a member _ _ _ _ left right

theorem joins (kept : Script.Congruence R) (list : List Join)
    (each : ∀ j ∈ list, (corresponds d e R bares).join j) :
    R (.joinsClause (Join.scripts d list)) (.joinsClause (Join.scripts e list)) := by
  rw [Join.scripts_eq_map, Join.scripts_eq_map]
  exact kept.joinsClause (Script.Congruence.map list each)

end NodeProperty.corresponds

end Lists

/-- What two dialects write each in its own way, related part by part. -/
structure Correspondence (d e : Dialect) (R : Script → Script → Prop)
    (bares : List String → List String → Prop) (rule : NodeProperty) : Prop where
  kept : Script.Congruence R
  nothingBare : bares [] []
  ownBare : ∀ qualifier, bares [qualifier] [qualifier]
  column : ∀ {bare other} (qualifier name), bares bare other →
    R (.column d bare qualifier name) (.column e other qualifier name)
  proposed : ∀ name, R (.proposed d name) (.proposed e name)
  ident : ∀ name, R (.ident d name) (.ident e name)
  nulls : ∀ f : Field, R (f.nullsScript d) (f.nullsScript e)
  returning : ∀ node list, R (.checkReturning d node list) (.checkReturning e node list)
  materialization : ∀ c, rule.cte c →
    R (.materialization d c.materialized) (.materialization e c.materialized)
  bounds : ∀ s, rule.select s → R (.bounds d s.limit s.offset) (.bounds e s.limit s.offset)
  intoTable : ∀ table conflict,
    R (Insert.intoTable d table conflict) (Insert.intoTable e table conflict)
  noRows : R (.text (if d == .mysql then " () VALUES ()" else " DEFAULT VALUES"))
    (.text (if e == .mysql then " () VALUES ()" else " DEFAULT VALUES"))
  conflict : ∀ (table : Table) target action,
    List.Forall₂ R (ConflictAction.scripts d [table.qualifier] action)
      (ConflictAction.scripts e [table.qualifier] action) →
    R (Conflict.script d table ⟨target, action⟩) (Conflict.script e table ⟨target, action⟩)
  update : ∀ u : Update, rule.update u → u.Parts (.corresponds d e R bares) →
    R (u.changes d) (u.changes e)

namespace Correspondence

open NodeProperty.corresponds

variable {d e : Dialect} {R : Script → Script → Prop} {bares : List String → List String → Prop}
  {rule : NodeProperty} (c : Correspondence d e R bares rule) {bare other : List String}

include c

theorem asClause (name : Option String) : R (.asClause d name) (.asClause e name) := by
  cases name with
  | none => exact c.kept.refl _
  | some name => exact c.kept.behind _ (c.ident name)

theorem table (t : Table) : R (.table d t) (.table e t) := by
  rcases t with ⟨_ | schema, name, asName⟩
  · exact c.kept.append (c.kept.behind _ (c.ident name)) (c.asClause asName)
  · exact c.kept.append (c.kept.append (c.kept.before (c.ident schema) _) (c.ident name))
      (c.asClause asName)

theorem columnNames (node : Node) (first : Bool) (list : List Field) :
    R (Field.columnNames d node first list) (Field.columnNames e node first list) := by
  induction list generalizing first with
  | nil => exact c.kept.refl _
  | cons f rest ih =>
      rw [Field.columnNames, Field.columnNames]
      refine c.kept.append ?_ (ih false)
      cases f.expr.columnName? with
      | none => exact c.kept.refl _
      | some name => exact c.kept.behind _ (c.ident name)

theorem outputs (related : bares bare other) (list : List Field)
    (each : ∀ f ∈ list, (NodeProperty.corresponds d e R bares).field f) :
    List.Forall₂ R (Field.outputs d bare list) (Field.outputs e other list) := by
  rw [Field.outputs_eq_map, Field.outputs_eq_map]
  exact Script.Congruence.map list fun f member =>
    c.kept.append (each f member bare other related) (c.asClause f.asName)

theorem orderings (list : List Field)
    (each : ∀ f ∈ list, (NodeProperty.corresponds d e R bares).field f) :
    List.Forall₂ R (Field.orderings d list) (Field.orderings e list) := by
  rw [Field.orderings_eq_map, Field.orderings_eq_map]
  exact Script.Congruence.map list fun f member =>
    c.kept.append (c.kept.before (each f member [] [] c.nothingBare) _) (c.nulls f)

theorem rows (related : bares bare other) (list : List (List Field))
    (each : ∀ row ∈ list, ∀ f ∈ row, (NodeProperty.corresponds d e R bares).field f) :
    List.Forall₂ R (Field.rows d bare list) (Field.rows e other list) := by
  rw [Field.rows_eq_map, Field.rows_eq_map]
  refine Script.Congruence.map list fun row member => c.kept.parens (c.kept.separated ", " ?_)
  exact Script.Congruence.map row fun f inside => each row member f inside bare other related

theorem conditions (keyword : String) (list : List Predicate)
    (each : ∀ p ∈ list, (NodeProperty.corresponds d e R bares).predicate p) :
    R (.conditions keyword (Predicate.scripts d [] (Predicate.memberPlace true list) list))
      (.conditions keyword (Predicate.scripts e [] (Predicate.memberPlace true list) list)) :=
  c.kept.conditions keyword (predicates c.nothingBare _ list each)

theorem ctes (list : List Cte) (each : ∀ x ∈ list, (NodeProperty.corresponds d e R bares).cte x) :
    R (.withClause list (Cte.scripts d list)) (.withClause list (Cte.scripts e list)) := by
  rw [Cte.scripts_eq_map, Cte.scripts_eq_map]
  exact c.kept.withClause list (Script.Congruence.map list each)

theorem source (keyword : String) (source : Option Source)
    (each : ∀ x ∈ source, (NodeProperty.corresponds d e R bares).source x) :
    R (Source.clause d keyword source) (Source.clause e keyword source) := by
  cases source with
  | none => exact c.kept.refl _
  | some source => exact c.kept.behind _ (each source rfl)

theorem cte (name : String) (asName : Option String) (columns : List String) (body : CteBody)
    (hint : Option Bool) (allowed : rule.cte ⟨name, asName, columns, body, hint⟩)
    (own : R (body.script d name columns) (body.script e name columns)) :
    R (Cte.script d ⟨name, asName, columns, body, hint⟩)
      (Cte.script e ⟨name, asName, columns, body, hint⟩) := by
  have names : List.Forall₂ R (columns.map (.ident d)) (columns.map (.ident e)) :=
    Script.Congruence.map columns fun column _ => c.ident column
  have list := c.kept.onlyIf (!columns.isEmpty)
    (c.kept.behind (.text " ") (c.kept.parens (c.kept.separated ", " names)))
  exact c.kept.append (c.kept.append (c.kept.before (c.kept.append (c.ident name) list) _)
    (c.materialization _ allowed)) (c.kept.parens own)

theorem conflictClause (table : Table) (x : Option Conflict)
    (upsert : ∀ y ∈ x, ∀ a ∈ y.action.assignments,
      (NodeProperty.corresponds d e R bares).assignment a) :
    R (Conflict.clause d table x) (Conflict.clause e table x) := by
  rcases x with _ | ⟨target, action⟩
  · exact c.kept.refl _
  · apply c.conflict
    cases action with
    | nothing => exact .nil
    | update list =>
        exact assignments (c.ownBare _) (c.ownBare _) list (upsert _ rfl)

theorem hereditary : rule.Hereditary (.corresponds d e R bares) where
  column table tableAlias name type _ bare other related := by
    simp only [Expr.script]
    exact c.column _ name related
  proposed name _ bare other _ := by
    simp only [Expr.script]
    exact c.proposed name
  value v _ bare other _ := by
    simp only [Expr.script]
    exact c.kept.refl _
  shared name v _ bare other _ := by
    simp only [Expr.script]
    exact c.kept.refl _
  template format operands _ each bare other related := by
    simp only [Expr.script]
    exact c.kept.template format (fields related operands each)
  scalar q _ own bare other _ := by
    simp only [Expr.script]
    exact c.kept.parens (query q own)
  field f _ own bare other related := by
    rw [Field.script_eq, Field.script_eq]
    exact own bare other related
  compare left op right _ l r bare other place related := by
    simp only [Predicate.script]
    exact c.kept.append (c.kept.before (l bare other related) _) (r bare other related)
  isNull field negated _ f bare other place related := by
    simp only [Predicate.script]
    exact c.kept.before (f bare other related) _
  inList field values negated _ f vs bare other place related := by
    simp only [Predicate.script]
    split
    · exact c.kept.refl _
    · exact c.kept.before (c.kept.append (c.kept.before (f bare other related) _)
        (c.kept.separated ", " (fields related values vs))) _
  inQuery field q negated _ f own bare other place related := by
    simp only [Predicate.script]
    exact c.kept.before (c.kept.append (c.kept.before (f bare other related) _) (query q own)) _
  between field low high negated _ f l u bare other place related := by
    simp only [Predicate.script]
    exact c.kept.append (c.kept.before (c.kept.append (c.kept.before (f bare other related) _)
      (l bare other related)) _) (u bare other related)
  existsRow q negated _ own bare other place _ := by
    simp only [Predicate.script]
    exact c.kept.before (c.kept.behind _ (query q own)) _
  not inner _ own bare other place related := by
    simp only [Predicate.script]
    exact c.kept.onlyIf _ (c.kept.before (c.kept.behind _ (own bare other none related)) _)
  group op members toplevel _ each bare other place related := by
    simp only [Predicate.script]
    exact c.kept.group op _ (predicates related _ members each)
  holds field _ f bare other place related := by
    simp only [Predicate.script]
    exact f bare other related
  table t _ := by
    simp only [NodeProperty.corresponds, Source.script]
    exact c.table t
  subquery q name _ own := by
    simp only [NodeProperty.corresponds, Source.script]
    exact c.kept.append (c.kept.before (c.kept.parens (query q own)) _) (c.ident name)
  cteSource name asName _ := by
    simp only [NodeProperty.corresponds, Source.script]
    exact c.kept.append (c.ident name) (c.asClause asName)
  plainCte name asName columns q hint allowed own := by
    refine c.cte name asName columns _ hint allowed ?_
    cases q with
    | none => exact c.kept.refl _
    | some q => exact c.kept.behind _ (query q (own q rfl))
  recursiveCte name asName columns initial step hint allowed i s := by
    refine c.cte name asName columns _ hint allowed ?_
    rcases initial with _ | initial
    · exact c.kept.refl _
    rcases step with _ | ⟨kind, step⟩
    · exact c.kept.refl _
    exact c.kept.append (c.kept.before (c.kept.behind _ (query initial (i initial rfl))) _)
      (query step (s _ rfl))
  join j _ s each := by
    rcases j with ⟨kind, source', list⟩
    exact c.kept.append (c.kept.behind _ s) (c.conditions " ON " list each)
  assignment a _ t v target target' value value' left right := by
    rcases a with ⟨targetField, valueField⟩
    exact c.kept.append (c.kept.before (t target target' left) _) (v value value' right)
  select s allowed parts := by
    have written := c.bounds s allowed
    rcases s with ⟨ctes', distinct, fields', source', joins', list, grouping, having, ordering,
      limit, offset⟩
    -- peeled off from the end, clause by clause
    simp only [NodeProperty.corresponds, Select.script]
    refine c.kept.append ?_ written
    refine c.kept.append ?_ (c.kept.listClause _ (c.orderings ordering parts.ordering))
    refine c.kept.append ?_ (c.conditions _ having parts.having)
    refine c.kept.append ?_ (c.kept.listClause _ (fields c.nothingBare grouping parts.grouping))
    refine c.kept.append ?_ (c.conditions _ list parts.conditions)
    refine c.kept.append ?_ (joins c.kept joins' parts.joins)
    refine c.kept.before ?_ _
    refine c.kept.append ?_ (c.source _ source' parts.source)
    refine c.kept.append ?_ (c.kept.separated _ (c.outputs c.nothingBare fields' parts.fields))
    exact c.kept.before (c.kept.behind _ (c.ctes ctes' parts.ctes)) _
  insert i _ parts := by
    rcases i with ⟨ctes', table, columns, rows', source', conflict', returning, fault⟩
    have own := c.ownBare table.qualifier
    have selected : R (Select.clause d source') (Select.clause e source') := by
      cases source' with
      | none => exact c.kept.refl _
      | some s => exact c.kept.behind _ (parts.source s rfl)
    simp only [NodeProperty.corresponds, Insert.script]
    refine c.kept.append ?_ (c.kept.listClause _ (c.outputs own returning parts.returning))
    refine c.kept.append ?_ (c.conflictClause table conflict' parts.upsert)
    refine c.kept.append (c.kept.append ?_ ?_) ?_
    · rw [Script.append_assoc, Script.append_assoc _ (Script.text _)]
      refine c.kept.append ?_ (c.intoTable table conflict')
      exact c.kept.append (c.kept.behind _ (c.returning _ returning)) (c.ctes ctes' parts.ctes)
    · exact c.kept.onlyIf _ (c.kept.behind _ (c.kept.parens (c.columnNames _ true columns)))
    · split
      · exact selected
      · split
        · exact c.kept.behind _ (c.kept.separated _ (c.rows own rows' parts.rows))
        · split
          · exact c.kept.refl _
          · exact c.noRows
  update u allowed parts := by
    have changed := c.update u allowed parts
    have shared : bares u.sharedBare u.sharedBare := by
      unfold Update.sharedBare
      split
      · exact c.nothingBare
      · exact c.ownBare _
    rcases u with ⟨ctes', table, assignments', source', joins', list, returning⟩
    simp only [NodeProperty.corresponds, Update.script]
    refine c.kept.append ?_ (c.kept.listClause _ (c.outputs shared returning parts.returning))
    refine c.kept.append ?_ (c.conditions _ list parts.conditions)
    refine c.kept.append ?_ changed
    refine c.kept.append ?_ (c.table table)
    refine c.kept.before (c.kept.append ?_ (c.ctes ctes' parts.ctes)) _
    exact c.kept.behind _ (c.returning _ returning)
  delete q _ parts := by
    rcases q with ⟨ctes', table, list, returning, everyRow⟩
    simp only [NodeProperty.corresponds, Delete.script]
    have own := c.ownBare table.qualifier
    refine c.kept.append ?_ (c.kept.listClause _ (c.outputs own returning parts.returning))
    refine c.kept.append ?_ (c.conditions _ list parts.conditions)
    refine c.kept.append ?_ (c.table table)
    refine c.kept.before (c.kept.append ?_ (c.ctes ctes' parts.ctes)) _
    exact c.kept.behind _ (c.returning _ returning)

theorem scripts (q : Query) (each : q.Each rule) : R (q.script d) (q.script e) :=
  query q (c.hereditary.of_query q each)

end Correspondence

end SqlTree
