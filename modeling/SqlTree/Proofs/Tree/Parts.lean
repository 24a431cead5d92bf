import Mathlib.Logic.Relation
import SqlTree.Proofs.Condition.Meaning
import SqlTree.Proofs.Insert.Rows
import SqlTree.Proofs.Tree.Induction
import SqlTree.Proofs.Tree.Signs

namespace SqlTree

/-- A node of a statement, of any kind. -/
inductive Part where
  | field (f : Field)
  | predicate (p : Predicate)
  | source (s : Source)
  | join (j : Join)
  | cte (c : Cte)
  | assignment (a : Assignment)
  | query (q : Query)

namespace Part

def ofExpr : Expr → List Part
  | .template _ operands => operands.map field
  | .scalar q => [query q]
  | .column .. | .proposed _ | .value _ | .shared .. => []

def ofPredicate : Predicate → List Part
  | .compare left _ right => [field left, field right]
  | .isNull f _ => [field f]
  | .inList f values _ => field f :: values.map field
  | .inQuery f q _ => [field f, query q]
  | .between f low high _ => [field f, field low, field high]
  | .existsRow q _ => [query q]
  | .not inner => [predicate inner]
  | .group _ members _ => members.map predicate
  | .holds f => [field f]

def ofCteBody : CteBody → List Part
  | .plain q => q.toList.map query
  | .recursive initial step => initial.toList.map query ++ step.toList.map (query ·.query)

def ofSelect (s : Select) : List Part :=
  s.ctes.map cte ++ s.fields.map field ++ s.source.toList.map source ++ s.joins.map join ++
    s.conditions.map predicate ++ s.grouping.map field ++ s.having.map predicate ++
    s.ordering.map field

/-- A conflict target is not written where upserts have none. -/
def ofConflict (d : Dialect) (c : Conflict) : List Part :=
  (if d = .mysql then [] else c.target.map field) ++ c.action.assignments.map assignment

/-- Rows are not written where a SELECT stands in their place. -/
def ofInsert (d : Dialect) (i : Insert) : List Part :=
  i.ctes.map cte ++ i.columns.map field ++
    (match i.source with
      | some s => [query (.select s)]
      | none => i.rows.flatten.map field) ++
    i.conflict.toList.flatMap (ofConflict d) ++ i.returning.map field

def ofUpdate (u : Update) : List Part :=
  u.ctes.map cte ++ u.assignments.map assignment ++ u.source.toList.map source ++
    u.joins.map join ++ u.conditions.map predicate ++ u.returning.map field

def ofDelete (q : Delete) : List Part :=
  q.ctes.map cte ++ q.conditions.map predicate ++ q.returning.map field

def children (d : Dialect) : Part → List Part
  | field f => ofExpr f.expr
  | predicate p => ofPredicate p
  | source (.subquery q _) => [query q]
  | source (.table _) | source (.cte ..) => []
  | join j => source j.source :: j.conditions.map predicate
  | cte c => ofCteBody c.body
  | assignment a => [field a.target, field a.value]
  | query (.select s) => ofSelect s
  | query (.insert i) => ofInsert d i
  | query (.update u) => ofUpdate u
  | query (.delete q) => ofDelete q

/-- The second part stands within the first, at any depth. -/
def Within (d : Dialect) : Part → Part → Prop :=
  Relation.ReflTransGen fun outer inner => inner ∈ outer.children d

/-- The part is written without a fault where it stands. -/
def Written (d : Dialect) : Part → Prop
  | field f => ∃ bare, (f.script d bare).fault = none
  | predicate p => ∃ bare place, (p.script d bare place).fault = none
  | source s => (s.script d).fault = none
  | join j => (j.script d).fault = none
  | cte c => (c.script d).fault = none
  | assignment a => ∃ targetBare valueBare, (a.script d targetBare valueBare).fault = none
  | query q => (q.script d).fault = none

end Part

namespace Script

theorem onlyIf_isOk {condition : Bool} {s : Script} (holds : condition = true)
    (ok : (onlyIf condition s).fault = none) : s.fault = none := by
  rwa [onlyIf, if_pos holds] at ok

theorem listClause_isOk {keyword : String} {items : List Script}
    (ok : (listClause keyword items).fault = none) : ∀ s ∈ items, s.fault = none := by
  intro s member
  have filled : (!items.isEmpty) = true := by simpa using List.ne_nil_of_mem member
  exact separated_isOk (append_isOk (onlyIf_isOk filled ok)).2 s member

theorem joinsClause_isOk {joins : List Script} (ok : (joinsClause joins).fault = none) :
    ∀ s ∈ joins, s.fault = none := by
  intro s member
  have filled : (!joins.isEmpty) = true := by simpa using List.ne_nil_of_mem member
  exact separated_isOk (append_isOk (onlyIf_isOk filled ok)).2 s member

theorem withClause_isOk {ctes : List Cte} {definitions : List Script}
    (ok : (withClause ctes definitions).fault = none) (filled : ctes ≠ []) :
    ∀ s ∈ definitions, s.fault = none := by
  have some : (!ctes.isEmpty) = true := by simpa using filled
  have inner := append_isOk (append_isOk (onlyIf_isOk some ok)).1
  exact separated_isOk inner.2

theorem fill_isOk {texts : List (List Char)} {operands : List Script}
    (ok : (fill texts operands).fault = none) (enough : operands.length < texts.length) :
    ∀ s ∈ operands, s.fault = none := by
  fun_induction fill texts operands with
  | case1 => exact absurd enough (Nat.not_lt_zero _)
  | case2 last operands =>
      have none : operands = [] := List.eq_nil_of_length_eq_zero (Nat.lt_one_iff.mp enough)
      rw [none]
      exact List.forall_mem_nil _
  | case3 => exact List.forall_mem_nil _
  | case4 first rest operand operands more ih =>
      obtain ⟨front, behind⟩ := append_isOk ok
      exact List.forall_mem_cons.mpr
        ⟨(append_isOk front).2, ih behind (Nat.lt_of_succ_lt_succ enough)⟩

theorem template_isOk {format : String} {operands : List Script}
    (ok : (template format operands).fault = none) :
    operands.length ≤ format.toList.count '?' ∧ ∀ s ∈ operands, s.fault = none := by
  obtain ⟨filled, used⟩ := append_isOk ok
  have slots := length_slotTexts format.toList
  have fits : operands.length ≤ format.toList.count '?' := by
    have none := fault_require_iff.mp used
    rw [beq_iff_eq] at none
    omega
  constructor
  · exact fits
  · apply fill_isOk filled
    omega

theorem group_isOk {op : Connective} {outermost : Bool} {members : List Script}
    (ok : (group op outermost members).fault = none) : ∀ s ∈ members, s.fault = none := by
  rcases members with _ | ⟨s, _ | ⟨next, rest⟩⟩
  · exact List.forall_mem_nil _
  · exact List.forall_mem_singleton.mpr ok
  · exact separated_isOk (fault_of_parens_if ok)

theorem conditions_isOk {keyword : String} {members : List Script}
    (ok : (conditions keyword members).fault = none) : ∀ s ∈ members, s.fault = none := by
  intro s member
  have filled : (!members.isEmpty) = true := by simpa using List.ne_nil_of_mem member
  exact group_isOk (append_isOk (onlyIf_isOk filled ok)).2 s member

end Script

/-! ### Lists of parts -/

section Lists

variable {d : Dialect} {bare : List String}

theorem Field.scripts_isOk {fields : List Field}
    (ok : ∀ s ∈ Field.scripts d bare fields, s.fault = none) :
    ∀ f ∈ fields, Part.Written d (.field f) := by
  intro f member
  rw [Field.scripts_eq_map] at ok
  exact ⟨bare, ok _ (List.mem_map_of_mem member)⟩

theorem Field.outputs_isOk {fields : List Field}
    (ok : ∀ s ∈ Field.outputs d bare fields, s.fault = none) :
    ∀ f ∈ fields, Part.Written d (.field f) := by
  intro f member
  rw [Field.outputs_eq_map] at ok
  exact ⟨bare, (Script.append_isOk (ok _ (List.mem_map_of_mem member))).1⟩

theorem Field.orderings_isOk {fields : List Field}
    (ok : ∀ s ∈ Field.orderings d fields, s.fault = none) :
    ∀ f ∈ fields, Part.Written d (.field f) := by
  intro f member
  rw [Field.orderings_eq_map] at ok
  have whole := ok _ (List.mem_map_of_mem member)
  exact ⟨[], (Script.append_isOk (Script.append_isOk whole).1).1⟩

theorem Field.rows_isOk {rows : List (List Field)}
    (ok : ∀ s ∈ Field.rows d bare rows, s.fault = none) :
    ∀ f ∈ rows.flatten, Part.Written d (.field f) := by
  intro f member
  obtain ⟨row, among, within⟩ := List.mem_flatten.mp member
  rw [Field.rows_eq_map] at ok
  have listed := Script.fault_of_parens (ok _ (List.mem_map_of_mem among))
  exact ⟨bare, Script.separated_isOk listed _ (List.mem_map_of_mem within)⟩

theorem Field.columnNames_isOk {node : Node} {first : Bool} {fields : List Field}
    (ok : (Field.columnNames d node first fields).fault = none) :
    ∀ f ∈ fields, Part.Written d (.field f) := by
  induction fields generalizing first with
  | nil => exact List.forall_mem_nil _
  | cons c rest ih =>
      obtain ⟨text, column, spelled, whole⟩ := Field.columnNames_cons ok
      rw [whole] at ok
      rw [List.forall_mem_cons]
      constructor
      · refine ⟨[c.qualifier], ?_⟩
        rcases c with ⟨expr, asName, direction, nulls⟩
        cases expr with
        | column table tableAlias name type =>
            have named : Ident.write d name = .ok text := spelled
            simp [Field.script, Expr.script, Script.column, Script.onlyIf, Script.ident, named,
              Field.qualifier, Script.text, Script.ofPiece]
        | _ => cases column
      · exact ih (Script.append_isOk ok).2

theorem Predicate.scripts_isOk {place : Option Bool} {members : List Predicate}
    (ok : ∀ s ∈ Predicate.scripts d bare place members, s.fault = none) :
    ∀ p ∈ members, Part.Written d (.predicate p) := by
  intro p member
  by_cases none : p.leaves = []
  · refine ⟨bare, place, ?_⟩
    rw [Predicate.script_of_leaves_eq_nil none]
    rfl
  · have kept : p ∈ Predicate.kept members := by
      rw [Predicate.kept, List.mem_filter]
      exact ⟨member, by simpa [Predicate.isEmpty_eq] using none⟩
    rw [Predicate.scripts_eq_kept] at ok
    exact ⟨bare, place, ok _ (List.mem_map_of_mem kept)⟩

theorem Join.scripts_isOk {joins : List Join} (ok : ∀ s ∈ Join.scripts d joins, s.fault = none) :
    ∀ j ∈ joins, Part.Written d (.join j) := by
  intro j member
  rw [Join.scripts_eq_map] at ok
  exact ok _ (List.mem_map_of_mem member)

theorem Assignment.scripts_isOk {targetBare valueBare : List String} {list : List Assignment}
    (ok : ∀ s ∈ Assignment.scripts d targetBare valueBare list, s.fault = none) :
    ∀ a ∈ list, Part.Written d (.assignment a) := by
  intro a member
  rw [Assignment.scripts_eq_map] at ok
  exact ⟨targetBare, valueBare, ok _ (List.mem_map_of_mem member)⟩

theorem Cte.clause_isOk {ctes : List Cte}
    (ok : (Script.withClause ctes (Cte.scripts d ctes)).fault = none) :
    ∀ c ∈ ctes, Part.Written d (.cte c) := by
  intro c member
  have each := Script.withClause_isOk ok (List.ne_nil_of_mem member)
  rw [Cte.scripts_eq_map] at each
  exact each _ (List.mem_map_of_mem member)

theorem Source.clause_isOk {keyword : String} {source : Option Source}
    (ok : (Source.clause d keyword source).fault = none) :
    ∀ x ∈ source, Part.Written d (.source x) := by
  intro x member
  obtain rfl := Option.mem_def.mp member
  exact (Script.append_isOk ok).2

end Lists

/-! ### Each part writes its own parts -/

namespace Part

variable {d : Dialect}

theorem forall_mem_pair {P : Part → Prop} {a b : Part} (first : P a) (second : P b) :
    ∀ x ∈ [a, b], P x :=
  List.forall_mem_cons.mpr ⟨first, List.forall_mem_singleton.mpr second⟩

theorem written_ofExpr {bare : List String} {e : Expr} (ok : (e.script d bare).fault = none) :
    ∀ x ∈ ofExpr e, Written d x := by
  cases e with
  | template format operands =>
      rw [Expr.script] at ok
      exact List.forall_mem_map.mpr (Field.scripts_isOk (Script.template_isOk ok).2)
  | scalar query =>
      rw [Expr.script] at ok
      exact List.forall_mem_singleton.mpr (Script.fault_of_parens ok)
  | _ => exact List.forall_mem_nil _

theorem written_ofPredicate {bare : List String} {place : Option Bool} {p : Predicate}
    (ok : (p.script d bare place).fault = none) : ∀ x ∈ ofPredicate p, Written d x := by
  cases p with
  | compare left op right =>
      rw [Predicate.script] at ok
      obtain ⟨front, second⟩ := Script.append_isOk ok
      exact forall_mem_pair ⟨bare, (Script.append_isOk front).1⟩ ⟨bare, second⟩
  | isNull f negated =>
      rw [Predicate.script] at ok
      exact List.forall_mem_singleton.mpr ⟨bare, (Script.append_isOk ok).1⟩
  | inList f values negated =>
      rw [Predicate.script] at ok
      split at ok
      · exact absurd ok (Option.some_ne_none _)
      · have front := (Script.append_isOk ok).1
        have tested := (Script.append_isOk (Script.append_isOk front).1).1
        have listed := Script.separated_isOk (Script.append_isOk front).2
        exact List.forall_mem_cons.mpr
          ⟨⟨bare, tested⟩, List.forall_mem_map.mpr (Field.scripts_isOk listed)⟩
  | inQuery f q negated =>
      rw [Predicate.script] at ok
      have front := (Script.append_isOk ok).1
      have tested := (Script.append_isOk (Script.append_isOk front).1).1
      exact forall_mem_pair ⟨bare, tested⟩ (Script.append_isOk front).2
  | between f low high negated =>
      rw [Predicate.script] at ok
      obtain ⟨front, second⟩ := Script.append_isOk ok
      have inner := (Script.append_isOk front).1
      have tested := (Script.append_isOk (Script.append_isOk inner).1).1
      exact List.forall_mem_cons.mpr ⟨⟨bare, tested⟩,
        forall_mem_pair ⟨bare, (Script.append_isOk inner).2⟩ ⟨bare, second⟩⟩
  | existsRow q negated =>
      rw [Predicate.script] at ok
      exact List.forall_mem_singleton.mpr (Script.append_isOk (Script.append_isOk ok).1).2
  | not inner =>
      refine List.forall_mem_singleton.mpr ⟨bare, none, ?_⟩
      by_cases empty : inner.leaves = []
      · rw [Predicate.script_of_leaves_eq_nil empty]
        rfl
      · rw [Predicate.script_not empty] at ok
        exact (Script.append_isOk (Script.append_isOk ok).1).2
  | group op members marked =>
      rw [Predicate.script] at ok
      exact List.forall_mem_map.mpr (Predicate.scripts_isOk (Script.group_isOk ok))
  | holds f =>
      rw [Predicate.script] at ok
      exact List.forall_mem_singleton.mpr ⟨bare, ok⟩

theorem written_ofCte {c : Cte} (ok : (c.script d).fault = none) :
    ∀ x ∈ ofCteBody c.body, Written d x := by
  rcases c with ⟨name, asName, columns, body, hint⟩
  rw [Cte.script] at ok
  have inside := Script.fault_of_parens (Script.append_isOk ok).2
  cases body with
  | plain q =>
      cases q with
      | none => exact List.forall_mem_nil _
      | some q => exact List.forall_mem_singleton.mpr (Script.append_isOk inside).2
  | recursive initial step =>
      rcases initial with _ | initial
      · cases inside
      · rcases step with _ | ⟨kind, query⟩
        · cases inside
        · obtain ⟨front, second⟩ := Script.append_isOk inside
          exact forall_mem_pair (Script.append_isOk (Script.append_isOk front).1).2 second

theorem written_ofSelect {s : Select} (ok : (s.script d).fault = none) :
    ∀ x ∈ ofSelect s, Written d x := by
  rcases s with ⟨ctes, distinct, fields, source, joins, conditions, grouping, having, ordering,
    limit, offset⟩
  simp only [Select.script, Script.fault_append, Option.or_eq_none_iff] at ok
  obtain ⟨⟨⟨⟨⟨⟨⟨⟨⟨⟨⟨-, withs⟩, -⟩, outputs⟩, sources⟩, -⟩, joined⟩, filtered⟩, grouped⟩, held⟩,
    ordered⟩, -⟩ := ok
  simp only [ofSelect, List.forall_mem_append, List.forall_mem_map]
  refine ⟨⟨⟨⟨⟨⟨⟨?_, ?_⟩, ?_⟩, ?_⟩, ?_⟩, ?_⟩, ?_⟩, ?_⟩
  · exact Cte.clause_isOk withs
  · exact Field.outputs_isOk (Script.separated_isOk outputs)
  · simpa using Source.clause_isOk sources
  · exact Join.scripts_isOk (Script.joinsClause_isOk joined)
  · exact Predicate.scripts_isOk (Script.conditions_isOk filtered)
  · exact Field.scripts_isOk (Script.listClause_isOk grouped)
  · exact Predicate.scripts_isOk (Script.conditions_isOk held)
  · exact Field.orderings_isOk (Script.listClause_isOk ordered)

theorem written_ofConflict {table : Table} {c : Conflict}
    (ok : (c.script d table).fault = none) : ∀ x ∈ ofConflict d c, Written d x := by
  rcases c with ⟨target, action⟩
  have updates {front : Script}
      (written : (front ++ .separated ", "
        (ConflictAction.scripts d [table.qualifier] action)).fault = none) :
      ∀ a ∈ action.assignments, Written d (.assignment a) := by
    have each := Script.separated_isOk (Script.append_isOk written).2
    cases action with
    | nothing => exact List.forall_mem_nil _
    | update assignments => exact Assignment.scripts_isOk each
  rw [ofConflict, List.forall_mem_append, List.forall_mem_map]
  rw [Conflict.script.eq_def] at ok
  dsimp only at ok
  by_cases mysql : d = .mysql
  · subst mysql
    rw [if_pos rfl]
    refine ⟨List.forall_mem_nil _, ?_⟩
    cases action with
    | nothing => exact List.forall_mem_nil _
    | update assignments => exact updates ok
  · have supported : d.onConflict = true := by cases d <;> simp_all [Dialect.onConflict]
    rw [if_neg mysql, List.forall_mem_map]
    rw [if_pos supported] at ok
    obtain ⟨front, acting⟩ := Script.append_isOk ok
    constructor
    · intro f member
      have filled : (!target.isEmpty) = true := by simpa using List.ne_nil_of_mem member
      have listed := Script.onlyIf_isOk filled (Script.append_isOk front).2
      exact Field.columnNames_isOk (Script.fault_of_parens (Script.append_isOk listed).2) f member
    · cases action with
      | nothing => exact List.forall_mem_nil _
      | update assignments => exact updates (Script.append_isOk acting).2

theorem written_ofInsert {i : Insert} (ok : (i.script d).fault = none) :
    ∀ x ∈ ofInsert d i, Written d x := by
  rw [Insert.script_eq] at ok
  simp only [Insert.opening, Insert.closing, Script.fault_append, Option.or_eq_none_iff] at ok
  obtain ⟨⟨⟨⟨⟨⟨-, withs⟩, -⟩, -⟩, header⟩, body⟩, conflict, outputs⟩ := ok
  simp only [ofInsert, List.forall_mem_append, List.forall_mem_map]
  refine ⟨⟨⟨⟨?_, ?_⟩, ?_⟩, ?_⟩, ?_⟩
  · exact Cte.clause_isOk withs
  · intro f member
    have filled : (!i.columns.isEmpty) = true := by simpa using List.ne_nil_of_mem member
    have listed := (Script.append_isOk (Script.onlyIf_isOk filled header)).2
    exact Field.columnNames_isOk (Script.fault_of_parens listed) f member
  · rw [Insert.body] at body
    cases source : i.source with
    | some s =>
        rw [source, Option.isSome_some, if_pos rfl] at body
        exact List.forall_mem_singleton.mpr (Script.append_isOk body).2
    | none =>
        rw [source, if_neg (by decide)] at body
        rw [List.forall_mem_map]
        intro f member
        have filled : (!i.rows.isEmpty) = true := by
          obtain ⟨row, among, -⟩ := List.mem_flatten.mp member
          simpa using List.ne_nil_of_mem among
        rw [if_pos filled] at body
        exact Field.rows_isOk (Script.separated_isOk (Script.append_isOk body).2) f member
  · intro x member
    obtain ⟨c, among, within⟩ := List.mem_flatMap.mp member
    rw [Option.mem_toList] at among
    rw [Option.mem_def.mp among] at conflict
    exact written_ofConflict conflict x within
  · exact Field.outputs_isOk (Script.listClause_isOk outputs)

theorem written_ofUpdate {u : Update} (ok : (u.script d).fault = none) :
    ∀ x ∈ ofUpdate u, Written d x := by
  rcases u with ⟨ctes, table, assignments, source, joins, conditions, returning⟩
  simp only [Update.script, Script.fault_append, Option.or_eq_none_iff] at ok
  obtain ⟨⟨⟨⟨⟨⟨-, withs⟩, -⟩, -⟩, body⟩, filtered⟩, outputs⟩ := ok
  have parts : (∀ a ∈ assignments, Written d (.assignment a)) ∧
      (∀ x ∈ source, Written d (.source x)) ∧ ∀ j ∈ joins, Written d (.join j) := by
    by_cases mysql : (d == .mysql) = true
    · rw [if_pos mysql] at body
      simp only [Script.fault_append, Option.or_eq_none_iff] at body
      obtain ⟨⟨⟨sources, joined⟩, -⟩, assigned⟩ := body
      exact ⟨Assignment.scripts_isOk (Script.separated_isOk assigned), Source.clause_isOk sources,
        Join.scripts_isOk (Script.joinsClause_isOk joined)⟩
    · rw [if_neg mysql] at body
      simp only [Script.fault_append, Option.or_eq_none_iff] at body
      obtain ⟨⟨⟨⟨-, assigned⟩, sources⟩, -⟩, joined⟩ := body
      exact ⟨Assignment.scripts_isOk (Script.separated_isOk assigned), Source.clause_isOk sources,
        Join.scripts_isOk (Script.joinsClause_isOk joined)⟩
  simp only [ofUpdate, List.forall_mem_append, List.forall_mem_map]
  refine ⟨⟨⟨⟨⟨?_, parts.1⟩, ?_⟩, parts.2.2⟩, ?_⟩, ?_⟩
  · exact Cte.clause_isOk withs
  · simpa using parts.2.1
  · exact Predicate.scripts_isOk (Script.conditions_isOk filtered)
  · exact Field.outputs_isOk (Script.listClause_isOk outputs)

theorem written_ofDelete {q : Delete} (ok : (q.script d).fault = none) :
    ∀ x ∈ ofDelete q, Written d x := by
  rcases q with ⟨ctes, table, conditions, returning, everyRow⟩
  simp only [Delete.script, Script.fault_append, Option.or_eq_none_iff] at ok
  obtain ⟨⟨⟨⟨⟨-, withs⟩, -⟩, -⟩, filtered⟩, outputs⟩ := ok
  simp only [ofDelete, List.forall_mem_append, List.forall_mem_map]
  refine ⟨⟨?_, ?_⟩, ?_⟩
  · exact Cte.clause_isOk withs
  · exact Predicate.scripts_isOk (Script.conditions_isOk filtered)
  · exact Field.outputs_isOk (Script.listClause_isOk outputs)

/-- A part that is written without a fault writes its own parts without a fault. -/
theorem Written.children {part : Part} (written : part.Written d) :
    ∀ x ∈ part.children d, x.Written d := by
  cases part with
  | field f =>
      obtain ⟨bare, ok⟩ := written
      rw [Field.script_eq] at ok
      exact written_ofExpr ok
  | predicate p =>
      obtain ⟨bare, place, ok⟩ := written
      exact written_ofPredicate ok
  | source s =>
      cases s with
      | table t => exact List.forall_mem_nil _
      | cte name asName => exact List.forall_mem_nil _
      | subquery q name =>
          have ok : ((Source.subquery q name).script d).fault = none := written
          rw [Source.script] at ok
          have inside := (Script.append_isOk (Script.append_isOk ok).1).1
          exact List.forall_mem_singleton.mpr (Script.fault_of_parens inside)
  | join j =>
      rcases j with ⟨kind, source, conditions⟩
      have ok : ((Join.mk kind source conditions).script d).fault = none := written
      rw [Join.script] at ok
      obtain ⟨front, on⟩ := Script.append_isOk ok
      exact List.forall_mem_cons.mpr ⟨(Script.append_isOk front).2,
        List.forall_mem_map.mpr (Predicate.scripts_isOk (Script.conditions_isOk on))⟩
  | cte c => exact written_ofCte written
  | assignment a =>
      rcases a with ⟨target, value⟩
      obtain ⟨targetBare, valueBare, ok⟩ := written
      rw [Assignment.script] at ok
      obtain ⟨front, second⟩ := Script.append_isOk ok
      exact forall_mem_pair ⟨targetBare, (Script.append_isOk front).1⟩ ⟨valueBare, second⟩
  | query q =>
      cases q with
      | select s => exact written_ofSelect written
      | insert i => exact written_ofInsert written
      | update u => exact written_ofUpdate written
      | delete q => exact written_ofDelete written

/-- Wherever a part stands within one that is written without a fault, it is written so too. -/
theorem Within.written {outer inner : Part} (within : Within d outer inner)
    (written : outer.Written d) : inner.Written d := by
  induction within with
  | refl => exact written
  | tail _ child ih => exact ih.children _ child

end Part

end SqlTree
