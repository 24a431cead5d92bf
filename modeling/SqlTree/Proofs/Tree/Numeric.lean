import SqlTree.Proofs.Tree.Sameness

namespace SqlTree

def NodeProperty.fixed (g : Value → Value) : NodeProperty where
  expr e := e.mapValues g = e
  field f := f.mapValues g = f
  predicate p := p.mapValues g = p
  source s := s.mapValues g = s
  cte c := c.mapValues g = c
  join j := j.mapValues g = j
  assignment a := a.mapValues g = a
  select s := s.mapValues g = s
  insert i := i.mapValues g = i
  update u := u.mapValues g = u
  delete d := d.mapValues g = d

namespace Fixed

variable {g : Value → Value}

open NodeProperty

theorem list {α : Type} {f : α → α} {list : List α} (each : ∀ x ∈ list, f x = x) :
    list.map f = list :=
  (List.map_congr_left each).trans (List.map_id' list)

theorem fields {list : List Field} (each : ∀ f ∈ list, (fixed g).field f) :
    Field.mapEach g list = list :=
  (Field.mapEach_eq_map g list).trans (Fixed.list each)

theorem rows {list : List (List Field)} (each : ∀ row ∈ list, ∀ f ∈ row, (fixed g).field f) :
    Field.mapRows g list = list :=
  (Field.mapRows_eq_map g list).trans (Fixed.list fun row member => Fixed.list (each row member))

theorem predicates {list : List Predicate} (each : ∀ p ∈ list, (fixed g).predicate p) :
    Predicate.mapEach g list = list :=
  (Predicate.mapEach_eq_map g list).trans (Fixed.list each)

theorem ctes {list : List Cte} (each : ∀ c ∈ list, (fixed g).cte c) : Cte.mapEach g list = list :=
  (Cte.mapEach_eq_map g list).trans (Fixed.list each)

theorem joins {list : List Join} (each : ∀ j ∈ list, (fixed g).join j) :
    Join.mapEach g list = list :=
  (Join.mapEach_eq_map g list).trans (Fixed.list each)

theorem assignments {list : List Assignment} (each : ∀ a ∈ list, (fixed g).assignment a) :
    Assignment.mapEach g list = list :=
  (Assignment.mapEach_eq_map g list).trans (Fixed.list each)

theorem nested {q : Query} (own : (fixed g).query q) : q.mapValues g = q := by
  cases q with
  | select s => exact congrArg Query.select own
  | insert i => exact congrArg Query.insert own
  | update u => exact congrArg Query.update own
  | delete d => exact congrArg Query.delete own

theorem query_option {q : Option Query} (each : ∀ x ∈ q, (fixed g).query x) :
    Query.mapOption g q = q := by
  cases q with
  | none => rfl
  | some q => exact congrArg some (nested (each q rfl))

theorem step_option {s : Option RecursiveStep} (each : ∀ x ∈ s, (fixed g).query x.query) :
    RecursiveStep.mapOption g s = s := by
  rcases s with _ | ⟨kind, q⟩
  · rfl
  · rw [RecursiveStep.mapOption, nested (each ⟨kind, q⟩ rfl)]

theorem source_option {s : Option Source} (each : ∀ x ∈ s, (fixed g).source x) :
    Source.mapOption g s = s := by
  cases s with
  | none => rfl
  | some s => exact congrArg some (each s rfl)

theorem select_option {s : Option Select} (each : ∀ x ∈ s, (fixed g).select x) :
    Select.mapOption g s = s := by
  cases s with
  | none => rfl
  | some s => exact congrArg some (each s rfl)

theorem conflict_option {c : Option Conflict}
    (target : ∀ x ∈ c, ∀ f ∈ x.target, (fixed g).field f)
    (upsert : ∀ x ∈ c, ∀ a ∈ x.action.assignments, (fixed g).assignment a) :
    Conflict.mapOption g c = c := by
  rcases c with _ | ⟨names, _ | list⟩
  · rfl
  · rw [Conflict.mapOption, ConflictAction.mapValues, fields (target _ rfl)]
  · have set : Assignment.mapEach g list = list := assignments (upsert _ rfl)
    rw [Conflict.mapOption, ConflictAction.mapValues, fields (target _ rfl), set]

end Fixed

section Numeric

variable {g : Value → Value} (kept : ∀ v : Value, v.holdsNaN = false → g v = v)

include kept

open Fixed in
theorem NodeProperty.fixed_hereditary : NodeProperty.numeric.Hereditary (.fixed g) where
  column _ _ _ _ _ := rfl
  proposed _ _ := rfl
  value v numeric := congrArg Expr.value (kept v numeric)
  shared name v numeric := congrArg (Expr.shared name) (kept v numeric)
  template format operands _ parts := congrArg (Expr.template format) (fields parts)
  scalar q _ part := congrArg Expr.scalar (nested part)
  field f _ part := by
    rcases f with ⟨expr, asName, direction, nulls⟩
    exact congrArg (Field.mk · asName direction nulls) part
  compare left op right _ l r := congrArg₂ (Predicate.compare · op ·) l r
  isNull field negated _ part := congrArg (Predicate.isNull · negated) part
  inList field values negated _ part parts :=
    congrArg₂ (Predicate.inList · · negated) part (fields parts)
  inQuery field q negated _ part inner :=
    congrArg₂ (Predicate.inQuery · · negated) part (nested inner)
  between field low high negated _ part l h := by
    show Predicate.between (field.mapValues g) (low.mapValues g) (high.mapValues g) negated = _
    rw [part, l, h]
  existsRow q negated _ inner := congrArg (Predicate.existsRow · negated) (nested inner)
  not inner _ part := congrArg Predicate.not part
  group op members toplevel _ parts := congrArg (Predicate.group op · toplevel) (predicates parts)
  holds field _ part := congrArg Predicate.holds part
  table _ _ := rfl
  subquery q name _ inner := congrArg (Source.subquery · name) (nested inner)
  cteSource _ _ _ := rfl
  plainCte name asName columns q hint _ inner :=
    congrArg (Cte.mk name asName columns · hint) (congrArg CteBody.plain (query_option inner))
  recursiveCte name asName columns initial step hint _ first next :=
    congrArg (Cte.mk name asName columns · hint)
      (congrArg₂ CteBody.recursive (query_option first) (step_option next))
  join j _ part parts := by
    rcases j with ⟨kind, source, conditions⟩
    exact congrArg₂ (Join.mk kind) part (predicates parts)
  assignment a _ target value := by
    rcases a with ⟨left, right⟩
    exact congrArg₂ Assignment.mk target value
  select s _ parts := by
    rcases s with ⟨list, distinct, shown, source, joined, conditions, grouping, having, ordering,
      limit, offset⟩
    show Select.mapValues g _ = _
    rw [Select.mapValues, ctes parts.ctes, fields parts.fields, source_option parts.source,
      joins parts.joins, predicates parts.conditions, fields parts.grouping,
      predicates parts.having, fields parts.ordering]
  insert i _ parts := by
    rcases i with ⟨list, table, columns, given, source, conflict, returning, fault⟩
    show Insert.mapValues g _ = _
    rw [Insert.mapValues, ctes parts.ctes, fields parts.columns, rows parts.rows,
      select_option parts.source, conflict_option parts.target parts.upsert,
      fields parts.returning]
  update u _ parts := by
    rcases u with ⟨list, table, changes, source, joined, conditions, returning⟩
    show Update.mapValues g _ = _
    rw [Update.mapValues, ctes parts.ctes, assignments parts.assignments,
      source_option parts.source, joins parts.joins, predicates parts.conditions,
      fields parts.returning]
  delete d _ parts := by
    rcases d with ⟨list, table, conditions, returning, everyRow⟩
    show Delete.mapValues g _ = _
    rw [Delete.mapValues, ctes parts.ctes, predicates parts.conditions, fields parts.returning]

theorem Expr.mapValues_of_numeric {e : Expr} (numeric : e.Each .numeric) : e.mapValues g = e :=
  (NodeProperty.fixed_hereditary kept).of_expr e numeric

end Numeric

def Value.orNull (v : Value) : Value := if v.holdsNaN then .null else v

theorem Value.holdsNaN_orNull (v : Value) : v.orNull.holdsNaN = false := by
  unfold orNull
  cases holds : v.holdsNaN with
  | true => rfl
  | false => exact holds

theorem Field.script_mapValues (g : Value → Value) (f : Field) (d : Dialect) (bare : List String) :
    (f.mapValues g).script d bare = (f.script d bare).mapValues g := by
  have always : NodeProperty.Always {} := {}
  exact (mapsValues_hereditary g).of_field f (always.each_field f) d bare

theorem Field.values_of_numeric {f : Field} (numeric : f.expr.Each .numeric) (d : Dialect)
    (bare : List String) : ∀ v ∈ (f.script d bare).values, v.holdsNaN = false := by
  -- with NULL for every value with a NaN the script stays the same, so it had no such value
  have kept (v : Value) (own : v.holdsNaN = false) : v.orNull = v := if_neg (by simp [own])
  have same : f.mapValues Value.orNull = f := by
    rcases f with ⟨expr, asName, direction, nulls⟩
    rw [Field.mapValues, Expr.mapValues_of_numeric kept numeric]
  have mapped : (f.script d bare).values.map Value.orNull = (f.script d bare).values := by
    rw [← Script.values_mapValues, ← Field.script_mapValues, same]
  intro v among
  rw [← mapped] at among
  obtain ⟨w, -, rfl⟩ := List.mem_map.mp among
  exact w.holdsNaN_orNull

end SqlTree
