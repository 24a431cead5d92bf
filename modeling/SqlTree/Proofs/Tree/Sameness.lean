import Mathlib.Tactic.Simps.Basic
import SqlTree.Proofs.Tree.Values
import SqlTree.Proofs.Value.Equality
import SqlTree.Tree.Equality

/-!
Equality of trees. Two trees are equal exactly if they hold no NaN and are the same up to the signs
of the zeros in them, whatever stands around their values. So equality of expressions is symmetric
and transitive, and an expression equals itself exactly if it holds no NaN.
-/

namespace SqlTree

/-- No value is a NaN, or JSON that holds one. -/
@[simps]
def NodeProperty.numeric : NodeProperty where
  expr
    | .value v | .shared _ v => v.holdsNaN = false
    | .column .. | .proposed _ | .template .. | .scalar _ => True

/-- Equal to exactly those that settle to the same, if both are allowed. -/
def Settles {α : Type} (equal : α → α → Bool) (allowed : α → Prop) (settle : α → α) (x : α) :
    Prop :=
  ∀ y, equal x y = true ↔ allowed x ∧ allowed y ∧ settle x = settle y

theorem Settles.list {α : Type} {equal : α → α → Bool} {allowed : α → Prop} {settle : α → α}
    {xs : List α} (each : ∀ x ∈ xs, Settles equal allowed settle x) :
    Settles (fun xs ys => xs.isEqv ys equal) (fun xs => ∀ x ∈ xs, allowed x) (List.map settle)
      xs := by
  induction xs with
  | nil => intro ys; cases ys <;> simp
  | cons x rest ih =>
      obtain ⟨own, others⟩ := List.forall_mem_cons.mp each
      intro ys
      cases ys with
      | nil => simp
      | cons y behind =>
          have joined := ih others behind
          simp only [List.isEqv_cons_cons, Bool.and_eq_true, own y, joined, List.forall_mem_cons,
            List.map_cons, List.cons.injEq]
          tauto

/-! ### Lists and optional parts, member by member -/

section Lists

variable (rule : NodeProperty)

theorem Field.equalList_eq (xs ys : List Field) :
    Field.equalList xs ys = xs.isEqv ys Field.equal := by
  induction xs generalizing ys with
  | nil => cases ys <;> simp [Field.equalList, List.isEqv]
  | cons x rest ih => cases ys <;> simp [Field.equalList, List.isEqv, ih]

theorem Field.equalRows_eq (xs ys : List (List Field)) :
    Field.equalRows xs ys = xs.isEqv ys Field.equalList := by
  induction xs generalizing ys with
  | nil => cases ys <;> simp [Field.equalRows, List.isEqv]
  | cons x rest ih => cases ys <;> simp [Field.equalRows, List.isEqv, ih]

theorem Predicate.equalList_eq (xs ys : List Predicate) :
    Predicate.equalList xs ys = xs.isEqv ys Predicate.equal := by
  induction xs generalizing ys with
  | nil => cases ys <;> simp [Predicate.equalList, List.isEqv]
  | cons x rest ih => cases ys <;> simp [Predicate.equalList, List.isEqv, ih]

theorem Cte.equalList_eq (xs ys : List Cte) : Cte.equalList xs ys = xs.isEqv ys Cte.equal := by
  induction xs generalizing ys with
  | nil => cases ys <;> simp [Cte.equalList, List.isEqv]
  | cons x rest ih => cases ys <;> simp [Cte.equalList, List.isEqv, ih]

theorem Join.equalList_eq (xs ys : List Join) : Join.equalList xs ys = xs.isEqv ys Join.equal := by
  induction xs generalizing ys with
  | nil => cases ys <;> simp [Join.equalList, List.isEqv]
  | cons x rest ih => cases ys <;> simp [Join.equalList, List.isEqv, ih]

theorem Assignment.equalList_eq (xs ys : List Assignment) :
    Assignment.equalList xs ys = xs.isEqv ys Assignment.equal := by
  induction xs generalizing ys with
  | nil => cases ys <;> simp [Assignment.equalList, List.isEqv]
  | cons x rest ih => cases ys <;> simp [Assignment.equalList, List.isEqv, ih]

theorem Field.eachOf_iff (fields : List Field) :
    Field.EachOf rule fields ↔ ∀ f ∈ fields, f.Each rule := by
  induction fields with
  | nil => simp [Field.EachOf]
  | cons f rest ih => simp [Field.EachOf, ih]

theorem Field.eachRow_iff (rows : List (List Field)) :
    Field.EachRow rule rows ↔ ∀ row ∈ rows, Field.EachOf rule row := by
  induction rows with
  | nil => simp [Field.EachRow]
  | cons row rest ih => simp [Field.EachRow, ih]

theorem Predicate.eachOf_iff (members : List Predicate) :
    Predicate.EachOf rule members ↔ ∀ p ∈ members, p.Each rule := by
  induction members with
  | nil => simp [Predicate.EachOf]
  | cons p rest ih => simp [Predicate.EachOf, ih]

theorem Cte.eachOf_iff (ctes : List Cte) : Cte.EachOf rule ctes ↔ ∀ c ∈ ctes, c.Each rule := by
  induction ctes with
  | nil => simp [Cte.EachOf]
  | cons c rest ih => simp [Cte.EachOf, ih]

theorem Join.eachOf_iff (joins : List Join) :
    Join.EachOf rule joins ↔ ∀ j ∈ joins, j.Each rule := by
  induction joins with
  | nil => simp [Join.EachOf]
  | cons j rest ih => simp [Join.EachOf, ih]

theorem Assignment.eachOf_iff (list : List Assignment) :
    Assignment.EachOf rule list ↔ ∀ a ∈ list, a.Each rule := by
  induction list with
  | nil => simp [Assignment.EachOf]
  | cons a rest ih => simp [Assignment.EachOf, ih]

end Lists

def NodeProperty.settles : NodeProperty where
  expr := Settles Expr.equal (Expr.Each numeric) (Expr.mapValues Value.settled)
  field := Settles Field.equal (Field.Each numeric) (Field.mapValues Value.settled)
  predicate := Settles Predicate.equal (Predicate.Each numeric) (Predicate.mapValues Value.settled)
  source := Settles Source.equal (Source.Each numeric) (Source.mapValues Value.settled)
  cte := Settles Cte.equal (Cte.Each numeric) (Cte.mapValues Value.settled)
  join := Settles Join.equal (Join.Each numeric) (Join.mapValues Value.settled)
  assignment :=
    Settles Assignment.equal (Assignment.Each numeric) (Assignment.mapValues Value.settled)
  select := Settles Select.equal (Select.Each numeric) (Select.mapValues Value.settled)
  insert := Settles Insert.equal (Insert.Each numeric) (Insert.mapValues Value.settled)
  update := Settles Update.equal (Update.Each numeric) (Update.mapValues Value.settled)
  delete := Settles Delete.equal (Delete.Each numeric) (Delete.mapValues Value.settled)

namespace Settling

open NodeProperty

theorem fields {list : List Field} (each : ∀ f ∈ list, settles.field f) :
    Settles Field.equalList (Field.EachOf numeric) (Field.mapEach Value.settled) list := by
  intro others
  rw [Field.equalList_eq, Field.eachOf_iff, Field.eachOf_iff, Field.mapEach_eq_map,
    Field.mapEach_eq_map]
  exact Settles.list each others

theorem rows {list : List (List Field)} (each : ∀ row ∈ list, ∀ f ∈ row, settles.field f) :
    Settles Field.equalRows (Field.EachRow numeric) (Field.mapRows Value.settled) list := by
  intro others
  have mapped : ∀ rows : List (List Field),
      Field.mapRows Value.settled rows = rows.map (Field.mapEach Value.settled) := by
    intro rows
    rw [Field.mapRows_eq_map]
    exact List.map_congr_left fun row _ => (Field.mapEach_eq_map _ row).symm
  rw [Field.equalRows_eq, Field.eachRow_iff, Field.eachRow_iff, mapped, mapped]
  exact Settles.list (fun row member => fields (each row member)) others

theorem predicates {list : List Predicate} (each : ∀ p ∈ list, settles.predicate p) :
    Settles Predicate.equalList (Predicate.EachOf numeric) (Predicate.mapEach Value.settled)
      list := by
  intro others
  rw [Predicate.equalList_eq, Predicate.eachOf_iff, Predicate.eachOf_iff,
    Predicate.mapEach_eq_map, Predicate.mapEach_eq_map]
  exact Settles.list each others

theorem ctes {list : List Cte} (each : ∀ c ∈ list, settles.cte c) :
    Settles Cte.equalList (Cte.EachOf numeric) (Cte.mapEach Value.settled) list := by
  intro others
  rw [Cte.equalList_eq, Cte.eachOf_iff, Cte.eachOf_iff, Cte.mapEach_eq_map, Cte.mapEach_eq_map]
  exact Settles.list each others

theorem joins {list : List Join} (each : ∀ j ∈ list, settles.join j) :
    Settles Join.equalList (Join.EachOf numeric) (Join.mapEach Value.settled) list := by
  intro others
  rw [Join.equalList_eq, Join.eachOf_iff, Join.eachOf_iff, Join.mapEach_eq_map,
    Join.mapEach_eq_map]
  exact Settles.list each others

theorem assignments {list : List Assignment} (each : ∀ a ∈ list, settles.assignment a) :
    Settles Assignment.equalList (Assignment.EachOf numeric) (Assignment.mapEach Value.settled)
      list := by
  intro others
  rw [Assignment.equalList_eq, Assignment.eachOf_iff, Assignment.eachOf_iff,
    Assignment.mapEach_eq_map, Assignment.mapEach_eq_map]
  exact Settles.list each others

theorem nested {q : Query} (own : settles.query q) :
    Settles Query.equal (Query.Each numeric) (Query.mapValues Value.settled) q := by
  intro r
  cases q with
  | select s => cases r <;> simp [Query.equal, Query.Each, Query.mapValues, own _]
  | insert i => cases r <;> simp [Query.equal, Query.Each, Query.mapValues, own _]
  | update u => cases r <;> simp [Query.equal, Query.Each, Query.mapValues, own _]
  | delete d => cases r <;> simp [Query.equal, Query.Each, Query.mapValues, own _]

theorem nested_option {q : Option Query} (each : ∀ x ∈ q, settles.query x) :
    Settles Query.equalOption (Query.EachOption numeric) (Query.mapOption Value.settled) q := by
  intro r
  cases q with
  | none => cases r <;> simp [Query.equalOption, Query.EachOption, Query.mapOption]
  | some q =>
      cases r with
      | none => simp [Query.equalOption, Query.mapOption]
      | some r =>
          simp [Query.equalOption, Query.EachOption, Query.mapOption, nested (each q rfl) r]

theorem step_option {s : Option RecursiveStep} (each : ∀ x ∈ s, settles.query x.query) :
    Settles RecursiveStep.equalOption (RecursiveStep.EachOption numeric)
      (RecursiveStep.mapOption Value.settled) s := by
  intro t
  rcases s with _ | ⟨kind, q⟩
  · rcases t with _ | ⟨kind, r⟩ <;>
      simp [RecursiveStep.equalOption, RecursiveStep.EachOption, RecursiveStep.mapOption]
  · rcases t with _ | ⟨kind', r⟩
    · simp [RecursiveStep.equalOption, RecursiveStep.mapOption]
    · have own := nested (each ⟨kind, q⟩ rfl) r
      simp only [RecursiveStep.equalOption, RecursiveStep.EachOption, RecursiveStep.mapOption,
        Bool.and_eq_true, beq_iff_eq, own, Option.some.injEq, RecursiveStep.mk.injEq]
      tauto

theorem source_option {s : Option Source} (each : ∀ x ∈ s, settles.source x) :
    Settles Source.equalOption (Source.EachOption numeric) (Source.mapOption Value.settled) s := by
  intro t
  cases s with
  | none => cases t <;> simp [Source.equalOption, Source.EachOption, Source.mapOption]
  | some s =>
      cases t with
      | none => simp [Source.equalOption, Source.mapOption]
      | some t => simp [Source.equalOption, Source.EachOption, Source.mapOption, each s rfl t]

theorem select_option {s : Option Select} (each : ∀ x ∈ s, settles.select x) :
    Settles Select.equalOption (Select.EachOption numeric) (Select.mapOption Value.settled) s := by
  intro t
  cases s with
  | none => cases t <;> simp [Select.equalOption, Select.EachOption, Select.mapOption]
  | some s =>
      cases t with
      | none => simp [Select.equalOption, Select.mapOption]
      | some t => simp [Select.equalOption, Select.EachOption, Select.mapOption, each s rfl t]

theorem conflict_option {c : Option Conflict} (target : ∀ x ∈ c, ∀ f ∈ x.target, settles.field f)
    (upsert : ∀ x ∈ c, ∀ a ∈ x.action.assignments, settles.assignment a) :
    Settles Conflict.equalOption (Conflict.EachOption numeric) (Conflict.mapOption Value.settled)
      c := by
  intro e
  rcases c with _ | ⟨left, action⟩
  · rcases e with _ | ⟨right, action'⟩ <;>
      simp [Conflict.equalOption, Conflict.EachOption, Conflict.mapOption]
  rcases e with _ | ⟨right, action'⟩
  · simp [Conflict.equalOption, Conflict.mapOption]
  have names := fields (target ⟨left, action⟩ rfl) right
  have changes : action.equal action' = true ↔ action.Each numeric ∧ action'.Each numeric ∧
      action.mapValues Value.settled = action'.mapValues Value.settled := by
    cases action with
    | nothing =>
        cases action' <;>
          simp [ConflictAction.equal, ConflictAction.Each, ConflictAction.mapValues]
    | update list =>
        cases action' with
        | nothing => simp [ConflictAction.equal, ConflictAction.mapValues]
        | update others =>
            have each := @assignments list (upsert ⟨left, .update list⟩ rfl) others
            simp [ConflictAction.equal, ConflictAction.Each, ConflictAction.mapValues, each]
  simp only [Conflict.equalOption, Conflict.EachOption, Conflict.mapOption, Bool.and_eq_true,
    names, changes, Option.some.injEq, Conflict.mk.injEq]
  tauto

end Settling

open Settling in
theorem NodeProperty.settles_hereditary : NodeProperty.Hereditary {} NodeProperty.settles where
  column table tableAlias name type _ e := by
    cases e <;> simp [Expr.equal, Expr.Each, Expr.mapValues, numeric_expr, and_assoc]
  proposed name _ e := by
    cases e <;> simp [Expr.equal, Expr.Each, Expr.mapValues, numeric_expr]
  value v _ e := by
    cases e with
    | value w => simp [Expr.equal, Expr.Each, Expr.mapValues, numeric_expr, Value.equal_iff]
    | _ => simp [Expr.equal, Expr.mapValues]
  shared name v _ e := by
    cases e with
    | shared other w =>
        simp only [Expr.equal, Expr.Each, Expr.mapValues, numeric_expr, Value.equal_iff,
          Bool.and_eq_true, beq_iff_eq, Expr.shared.injEq]
        tauto
    | _ => simp [Expr.equal, Expr.mapValues]
  template format operands _ parts e := by
    cases e with
    | template other others =>
        simp only [Expr.equal, Expr.Each, Expr.mapValues, numeric_expr, fields parts others,
          Bool.and_eq_true, beq_iff_eq, Expr.template.injEq]
        tauto
    | _ => simp [Expr.equal, Expr.mapValues]
  scalar q _ part e := by
    cases e with
    | scalar r => simp [Expr.equal, Expr.Each, Expr.mapValues, numeric_expr, nested part r]
    | _ => simp [Expr.equal, Expr.mapValues]
  field f _ part g := by
    rcases f with ⟨expr, asName, direction, nulls⟩
    rcases g with ⟨other, _, _, _⟩
    simp only [Field.equal, Field.Each, Field.mapValues, numeric_field, part other,
      Bool.and_eq_true, beq_iff_eq, Field.mk.injEq]
    tauto
  compare left op right _ l r p := by
    cases p with
    | compare left' op' right' =>
        simp only [Predicate.equal, Predicate.Each, Predicate.mapValues, numeric_predicate, l left',
          r right', Bool.and_eq_true, beq_iff_eq, Predicate.compare.injEq]
        tauto
    | _ => simp [Predicate.equal, Predicate.mapValues]
  isNull field negated _ part p := by
    cases p with
    | isNull field' negated' =>
        simp only [Predicate.equal, Predicate.Each, Predicate.mapValues, numeric_predicate,
          part field', Bool.and_eq_true, beq_iff_eq, Predicate.isNull.injEq]
        tauto
    | _ => simp [Predicate.equal, Predicate.mapValues]
  inList field values negated _ part parts p := by
    cases p with
    | inList field' values' negated' =>
        simp only [Predicate.equal, Predicate.Each, Predicate.mapValues, numeric_predicate,
          part field', fields parts values', Bool.and_eq_true, beq_iff_eq, Predicate.inList.injEq]
        tauto
    | _ => simp [Predicate.equal, Predicate.mapValues]
  inQuery field q negated _ part inner p := by
    cases p with
    | inQuery field' q' negated' =>
        simp only [Predicate.equal, Predicate.Each, Predicate.mapValues, numeric_predicate,
          part field', nested inner q', Bool.and_eq_true, beq_iff_eq, Predicate.inQuery.injEq]
        tauto
    | _ => simp [Predicate.equal, Predicate.mapValues]
  between field low high negated _ part l h p := by
    cases p with
    | between field' low' high' negated' =>
        simp only [Predicate.equal, Predicate.Each, Predicate.mapValues, numeric_predicate,
          part field', l low', h high', Bool.and_eq_true, beq_iff_eq, Predicate.between.injEq]
        tauto
    | _ => simp [Predicate.equal, Predicate.mapValues]
  existsRow q negated _ inner p := by
    cases p with
    | existsRow q' negated' =>
        simp only [Predicate.equal, Predicate.Each, Predicate.mapValues, numeric_predicate,
          nested inner q', Bool.and_eq_true, beq_iff_eq, Predicate.existsRow.injEq]
        tauto
    | _ => simp [Predicate.equal, Predicate.mapValues]
  not inner _ part p := by
    cases p with
    | not inner' =>
        simp [Predicate.equal, Predicate.Each, Predicate.mapValues, numeric_predicate, part inner']
    | _ => simp [Predicate.equal, Predicate.mapValues]
  group op members toplevel _ parts p := by
    cases p with
    | group op' members' toplevel' =>
        simp only [Predicate.equal, Predicate.Each, Predicate.mapValues, numeric_predicate,
          predicates parts members', Bool.and_eq_true, beq_iff_eq, Predicate.group.injEq]
        tauto
    | _ => simp [Predicate.equal, Predicate.mapValues]
  holds field _ part p := by
    cases p with
    | holds field' =>
        simp [Predicate.equal, Predicate.Each, Predicate.mapValues, numeric_predicate, part field']
    | _ => simp [Predicate.equal, Predicate.mapValues]
  table t _ s := by
    cases s <;> simp [Source.equal, Source.Each, Source.mapValues, numeric_source]
  subquery q name _ inner s := by
    cases s with
    | subquery q' name' =>
        simp only [Source.equal, Source.Each, Source.mapValues, numeric_source, nested inner q',
          Bool.and_eq_true, beq_iff_eq, Source.subquery.injEq]
        tauto
    | _ => simp [Source.equal, Source.mapValues]
  cteSource name asName _ s := by
    cases s <;> simp [Source.equal, Source.Each, Source.mapValues, numeric_source]
  plainCte name asName columns q hint _ inner c := by
    rcases c with ⟨name', asName', columns', _ | _, hint'⟩
    · rename_i q'
      simp only [Cte.equal, CteBody.equal, Cte.Each, CteBody.Each, Cte.mapValues,
        CteBody.mapValues, numeric_cte, nested_option inner q', Bool.and_eq_true, beq_iff_eq,
        Cte.mk.injEq, CteBody.plain.injEq]
      tauto
    · simp [Cte.equal, CteBody.equal, Cte.mapValues, CteBody.mapValues]
  recursiveCte name asName columns initial step hint _ first next c := by
    rcases c with ⟨name', asName', columns', _ | _, hint'⟩
    · simp [Cte.equal, CteBody.equal, Cte.mapValues, CteBody.mapValues]
    · rename_i initial' step'
      simp only [Cte.equal, CteBody.equal, Cte.Each, CteBody.Each, Cte.mapValues,
        CteBody.mapValues, numeric_cte, nested_option first initial', step_option next step',
        Bool.and_eq_true, beq_iff_eq, Cte.mk.injEq, CteBody.recursive.injEq]
      tauto
  join j _ part parts k := by
    rcases j with ⟨kind, source, conditions⟩
    rcases k with ⟨kind', source', conditions'⟩
    simp only [Join.equal, Join.Each, Join.mapValues, numeric_join, part source',
      predicates parts conditions', Bool.and_eq_true, beq_iff_eq, Join.mk.injEq]
    tauto
  assignment a _ target value b := by
    rcases a with ⟨left, right⟩
    rcases b with ⟨left', right'⟩
    simp only [Assignment.equal, Assignment.Each, Assignment.mapValues, numeric_assignment,
      target left', value right', Bool.and_eq_true, Assignment.mk.injEq]
    tauto
  select s _ parts t := by
    rcases s with ⟨list, distinct, shown, source, joined, conditions, grouping, having, ordering,
      limit, offset⟩
    rcases t with ⟨list', distinct', shown', source', joined', conditions', grouping', having',
      ordering', limit', offset'⟩
    simp only [Select.equal, Select.Each, Select.mapValues, numeric_select,
      Bool.and_eq_true, beq_iff_eq, Select.mk.injEq, ctes parts.ctes list',
      fields parts.fields shown',
      source_option parts.source source', joins parts.joins joined',
      predicates parts.conditions conditions', fields parts.grouping grouping',
      predicates parts.having having', fields parts.ordering ordering']
    tauto
  insert i _ parts j := by
    rcases i with ⟨list, table, columns, given, source, conflict, returning, fault⟩
    rcases j with ⟨list', table', columns', given', source', conflict', returning', fault'⟩
    simp only [Insert.equal, Insert.Each, Insert.mapValues, numeric_insert,
      Bool.and_eq_true, beq_iff_eq, Insert.mk.injEq, ctes parts.ctes list',
      fields parts.columns columns',
      rows parts.rows given', select_option parts.source source',
      conflict_option parts.target parts.upsert conflict', fields parts.returning returning']
    tauto
  update u _ parts v := by
    rcases u with ⟨list, table, changes, source, joined, conditions, returning⟩
    rcases v with ⟨list', table', changes', source', joined', conditions', returning'⟩
    simp only [Update.equal, Update.Each, Update.mapValues, numeric_update,
      Bool.and_eq_true, beq_iff_eq, Update.mk.injEq, ctes parts.ctes list',
      assignments parts.assignments changes',
      source_option parts.source source', joins parts.joins joined',
      predicates parts.conditions conditions', fields parts.returning returning']
    tauto
  delete d _ parts e := by
    rcases d with ⟨list, table, conditions, returning, everyRow⟩
    rcases e with ⟨list', table', conditions', returning', everyRow'⟩
    simp only [Delete.equal, Delete.Each, Delete.mapValues, numeric_delete,
      Bool.and_eq_true, beq_iff_eq, Delete.mk.injEq, ctes parts.ctes list',
      predicates parts.conditions conditions',
      fields parts.returning returning']
    tauto

/-- Fields show the same expression exactly if neither holds a NaN and, up to the signs of zeros,
they are built alike. -/
theorem Field.sameExpr_iff (f g : Field) :
    f.sameExpr g = true ↔ f.expr.Each NodeProperty.numeric ∧ g.expr.Each NodeProperty.numeric ∧
      f.expr.mapValues Value.settled = g.expr.mapValues Value.settled :=
  have always : NodeProperty.Always {} := {}
  NodeProperty.settles_hereditary.of_expr f.expr (always.each_expr f.expr) g.expr

theorem Field.sameExpr_self_iff (f : Field) :
    f.sameExpr f = true ↔ f.expr.Each NodeProperty.numeric := by
  simp [Field.sameExpr_iff]

theorem Field.sameExpr_symm {f g : Field} (same : f.sameExpr g = true) : g.sameExpr f = true := by
  obtain ⟨left, right, settled⟩ := (Field.sameExpr_iff f g).mp same
  exact (Field.sameExpr_iff g f).mpr ⟨right, left, settled.symm⟩

theorem Field.sameExpr_comm (f g : Field) : f.sameExpr g = g.sameExpr f :=
  Bool.eq_iff_iff.mpr ⟨Field.sameExpr_symm, Field.sameExpr_symm⟩

theorem Field.sameExpr_trans {f g h : Field} (first : f.sameExpr g = true)
    (second : g.sameExpr h = true) : f.sameExpr h = true := by
  obtain ⟨left, -, settled⟩ := (Field.sameExpr_iff f g).mp first
  obtain ⟨-, right, others⟩ := (Field.sameExpr_iff g h).mp second
  exact (Field.sameExpr_iff f h).mpr ⟨left, right, settled.trans others⟩

theorem Field.sameExpr_through {f g h : Field} (left : f.sameExpr h = true)
    (right : g.sameExpr h = true) : f.sameExpr g = true :=
  Field.sameExpr_trans left (Field.sameExpr_symm right)

theorem Field.sameExpr_congr {f g : Field} (same : f.sameExpr g = true) (h : Field) :
    h.sameExpr f = h.sameExpr g :=
  Bool.eq_iff_iff.mpr ⟨fun first => Field.sameExpr_trans first same,
    fun first => Field.sameExpr_trans first (Field.sameExpr_symm same)⟩

end SqlTree
