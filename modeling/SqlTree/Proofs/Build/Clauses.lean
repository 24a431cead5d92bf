import Mathlib.Data.List.Dedup
import SqlTree.Build.Delete
import SqlTree.Build.Select
import SqlTree.Build.Update

/-!
The clauses of a statement are built apart. Calls for different clauses commute, so it only counts
what is called for each clause and in which order; and several calls for one clause stand for one
call with their lists one after the other, or for the last of them.
-/

namespace SqlTree

namespace Build

variable {σ κ ι : Type} [DecidableEq ι] (clause : κ → ι)

def ofClause (k : ι) (list : List κ) : List κ := list.filter fun c => clause c = k

/-- For every clause the calls of one list are those of the other, in the same order, or the other
has one call that stands for them. -/
def SameClauses (standsFor : List κ → κ → Prop) (a b : List κ) : Prop :=
  ∀ k, ofClause clause k a = ofClause clause k b ∨
    ∃ one, standsFor (ofClause clause k a) one ∧ ofClause clause k b = [one]

section Gather

variable {clause}

theorem ofClause_ofClause (j k : ι) (list : List κ) :
    ofClause clause k (ofClause clause j list) = if j = k then ofClause clause k list else [] := by
  rw [ofClause, ofClause, List.filter_filter]
  split
  case isTrue same =>
    subst same
    simp [ofClause]
  case isFalse apart =>
    rw [List.filter_eq_nil_iff]
    intro c _ both
    simp only [Bool.and_eq_true, decide_eq_true_eq] at both
    exact apart (both.2.symm.trans both.1)

theorem ofClause_gathered {order : List ι} (distinct : order.Nodup) (k : ι) (list : List κ) :
    ofClause clause k (order.flatMap fun j => ofClause clause j list) =
      if k ∈ order then ofClause clause k list else [] := by
  induction order with
  | nil => rfl
  | cons j rest ih =>
      obtain ⟨new, distinct⟩ := List.nodup_cons.mp distinct
      have others := ih distinct
      rw [ofClause] at others
      rw [List.flatMap_cons, ofClause, List.filter_append, others, ← ofClause, ofClause_ofClause]
      by_cases same : j = k
      · subst same
        simp [new]
      · simp [same, Ne.symm same]

end Gather

section Calls

variable {clause} {call : σ → κ → σ}
  (commute : ∀ s x y, clause x ≠ clause y → call (call s x) y = call (call s y) x)

include commute

omit [DecidableEq ι] in
theorem foldl_past {x : κ} {list : List κ} (apart : ∀ y ∈ list, clause x ≠ clause y) (s : σ) :
    list.foldl call (call s x) = call (list.foldl call s) x := by
  induction list generalizing s with
  | nil => rfl
  | cons y rest ih =>
      obtain ⟨own, others⟩ := List.forall_mem_cons.mp apart
      rw [List.foldl_cons, List.foldl_cons, commute s x y own, ih others]

theorem foldl_congr_clauses {a b : List κ}
    (same : ∀ k, ofClause clause k a = ofClause clause k b) (s : σ) :
    a.foldl call s = b.foldl call s := by
  induction a generalizing b s with
  | nil =>
      cases b with
      | nil => rfl
      | cons y rest =>
          have none := same (clause y)
          simp [ofClause] at none
  | cons x a ih =>
      -- in `b` the first call for the clause of `x` is `x`
      have first : ofClause clause (clause x) b = x :: ofClause clause (clause x) a := by
        rw [← same]
        simp [ofClause]
      obtain ⟨front, back, rfl, before, -, -⟩ := List.filter_eq_cons_iff.mp first
      have apart : ∀ y ∈ front, clause x ≠ clause y := by
        intro y member equal
        exact before y member (decide_eq_true equal.symm)
      have rest : ∀ k, ofClause clause k a = ofClause clause k (front ++ back) := by
        intro k
        have whole := same k
        by_cases own : clause x = k
        · subst own
          have none : ofClause clause (clause x) front = [] := List.filter_eq_nil_iff.mpr before
          rw [ofClause] at none
          simpa [ofClause, none] using whole
        · simpa [ofClause, own] using whole
      rw [List.foldl_cons, ih rest, List.foldl_append, List.foldl_append, List.foldl_cons,
        foldl_past commute apart]

/-- Calls may be put clause by clause. -/
theorem foldl_gathered {order : List ι} (distinct : order.Nodup) {list : List κ}
    (complete : ∀ c ∈ list, clause c ∈ order) (s : σ) :
    list.foldl call s = (order.flatMap fun k => ofClause clause k list).foldl call s := by
  apply foldl_congr_clauses commute
  intro k
  rw [ofClause_gathered distinct]
  split
  case isTrue => rfl
  case isFalse absent =>
    apply List.filter_eq_nil_iff.mpr
    intro c member own
    exact absent (of_decide_eq_true own ▸ complete c member)

theorem foldl_eq_of_sameClauses {standsFor : List κ → κ → Prop}
    (stands : ∀ several one, standsFor several one → ∀ s, several.foldl call s = call s one)
    {a b : List κ} (same : SameClauses clause standsFor a b) (s : σ) :
    a.foldl call s = b.foldl call s := by
  have each : ∀ k s, (ofClause clause k a).foldl call s = (ofClause clause k b).foldl call s := by
    intro k s
    rcases same k with equal | ⟨one, several, alone⟩
    · rw [equal]
    · rw [stands _ one several, alone]
      rfl
  let order := (a.map clause ++ b.map clause).dedup
  have distinct : order.Nodup := List.nodup_dedup _
  have inA : ∀ c ∈ a, clause c ∈ order := fun c member => by
    simpa [order] using .inl ⟨c, member, rfl⟩
  have inB : ∀ c ∈ b, clause c ∈ order := fun c member => by
    simpa [order] using .inr ⟨c, member, rfl⟩
  rw [foldl_gathered commute distinct inA, foldl_gathered commute distinct inB,
    List.foldl_flatMap, List.foldl_flatMap]
  simp only [each]

end Calls

section Several

variable {α : Type} {call : σ → κ → σ}

theorem foldl_appending {make : List α → κ} (nothing : ∀ s, call s (make []) = s)
    (twice : ∀ s a b, call (call s (make a)) (make b) = call s (make (a ++ b)))
    (lists : List (List α)) (s : σ) :
    (lists.map make).foldl call s = call s (make lists.flatten) := by
  induction lists generalizing s with
  | nil => exact (nothing s).symm
  | cons first rest ih =>
      rw [List.map_cons, List.foldl_cons, ih, twice, List.flatten_cons]

theorem foldl_replacing {make : α → κ}
    (twice : ∀ s a b, call (call s (make a)) (make b) = call s (make b))
    (before : List α) (last : α) (s : σ) :
    ((before ++ [last]).map make).foldl call s = call s (make last) := by
  induction before generalizing s with
  | nil => rfl
  | cons first rest ih =>
      rw [List.cons_append, List.map_cons, List.foldl_cons, ih, twice]

end Several

end Build

namespace Select

inductive Clause where
  | ctes
  | distinct
  | fields
  | source
  | joins
  | conditions
  | grouping
  | having
  | ordering
  | limit
  | offset
  deriving DecidableEq, Repr

def Call.clause : Call → Clause
  | .ctes _ => .ctes
  | .distinct => .distinct
  | .fields _ => .fields
  | .source _ => .source
  | .join _ => .joins
  | .conditions _ => .conditions
  | .grouping _ => .grouping
  | .having _ => .having
  | .ordering _ => .ordering
  | .limit _ => .limit
  | .offset _ => .offset

/-- Several calls for one clause and the one that stands for them: with their lists one after the
other, or the last of them where the clause holds one thing. -/
inductive Call.StandsFor : List Call → Call → Prop where
  | ctes (lists : List (List Cte)) : StandsFor (lists.map .ctes) (.ctes lists.flatten)
  | distinct (more : Nat) : StandsFor (.distinct :: List.replicate more .distinct) .distinct
  | fields (lists : List (List Field)) : StandsFor (lists.map .fields) (.fields lists.flatten)
  | source (before : List Source) (last : Source) :
      StandsFor ((before ++ [last]).map .source) (.source last)
  | conditions (lists : List (List Predicate)) :
      StandsFor (lists.map .conditions) (.conditions lists.flatten)
  | grouping (lists : List (List Field)) : StandsFor (lists.map .grouping) (.grouping lists.flatten)
  | having (lists : List (List Predicate)) : StandsFor (lists.map .having) (.having lists.flatten)
  | ordering (lists : List (List Field)) : StandsFor (lists.map .ordering) (.ordering lists.flatten)
  | limit (before : List Int64) (last : Int64) :
      StandsFor ((before ++ [last]).map .limit) (.limit last)
  | offset (before : List Int64) (last : Int64) :
      StandsFor ((before ++ [last]).map .offset) (.offset last)

theorem call_comm (s : Select) (x y : Call) (apart : x.clause ≠ y.clause) :
    (s.call x).call y = (s.call y).call x := by
  cases x <;> cases y <;> first | rfl | exact absurd rfl apart

theorem Call.StandsFor.calls_eq {several : List Call} {one : Call} (stands : StandsFor several one)
    (s : Select) : s.calls several = s.call one := by
  cases stands with
  | ctes | fields | conditions | grouping | having | ordering =>
      apply Build.foldl_appending
      · rintro ⟨⟩
        simp only [call, List.append_nil]
      · intro s a b
        simp only [call, List.append_assoc]
  | source | limit | offset =>
      apply Build.foldl_replacing
      exact fun _ _ _ => rfl
  | distinct more =>
      induction more with
      | zero => rfl
      | succ more ih => exact ih

end Select

namespace Update

inductive Clause where
  | ctes
  | assignments
  | source
  | joins
  | conditions
  | returning
  deriving DecidableEq, Repr

def Call.clause : Call → Clause
  | .ctes _ => .ctes
  | .assignments _ | .settings _ => .assignments
  | .source _ => .source
  | .join _ => .joins
  | .conditions _ => .conditions
  | .returning _ => .returning

def Call.assigned : Call → List Assignment
  | .assignments list => list
  | .settings row => Setting.collect row
  | _ => []

/-- Several calls for one clause and the one that stands for them. Assignments that were collected
from settings are appended like others. -/
inductive Call.StandsFor : List Call → Call → Prop where
  | ctes (lists : List (List Cte)) : StandsFor (lists.map .ctes) (.ctes lists.flatten)
  | assignments (several : List Call) (own : ∀ c ∈ several, c.clause = .assignments) :
      StandsFor several (.assignments (several.flatMap assigned))
  | source (before : List Source) (last : Source) :
      StandsFor ((before ++ [last]).map .source) (.source last)
  | conditions (lists : List (List Predicate)) :
      StandsFor (lists.map .conditions) (.conditions lists.flatten)
  | returning (lists : List (List Field)) :
      StandsFor (lists.map .returning) (.returning lists.flatten)

theorem call_comm (u : Update) (x y : Call) (apart : x.clause ≠ y.clause) :
    (u.call x).call y = (u.call y).call x := by
  cases x <;> cases y <;> first | rfl | exact absurd rfl apart

theorem call_assigned (u : Update) {c : Call} (own : c.clause = .assignments) :
    u.call c = u.call (.assignments c.assigned) := by
  cases c <;> first | rfl | exact nomatch own

theorem Call.StandsFor.calls_eq {several : List Call} {one : Call} (stands : StandsFor several one)
    (u : Update) : u.calls several = u.call one := by
  cases stands with
  | ctes | conditions | returning =>
      apply Build.foldl_appending
      · rintro ⟨⟩
        simp only [call, List.append_nil]
      · intro u a b
        simp only [call, List.append_assoc]
  | source =>
      apply Build.foldl_replacing
      exact fun _ _ _ => rfl
  | assignments _ own =>
      induction several generalizing u with
      | nil =>
          cases u
          simp only [calls, List.foldl_nil, List.flatMap_nil, call, List.append_nil]
      | cons c rest ih =>
          obtain ⟨first, others⟩ := List.forall_mem_cons.mp own
          calc
            u.calls (c :: rest) = (u.call c).calls rest := rfl
            _ = (u.call (.assignments c.assigned)).call (.assignments (rest.flatMap assigned)) := by
              rw [ih _ others, call_assigned u first]
            _ = u.call (.assignments ((c :: rest).flatMap assigned)) := by
              simp only [call, List.append_assoc, List.flatMap_cons]

end Update

namespace Delete

inductive Clause where
  | ctes
  | everyRow
  | conditions
  | returning
  deriving DecidableEq, Repr

def Call.clause : Call → Clause
  | .ctes _ => .ctes
  | .everyRow _ => .everyRow
  | .conditions _ => .conditions
  | .returning _ => .returning

inductive Call.StandsFor : List Call → Call → Prop where
  | ctes (lists : List (List Cte)) : StandsFor (lists.map .ctes) (.ctes lists.flatten)
  | everyRow (before : List Bool) (last : Bool) :
      StandsFor ((before ++ [last]).map .everyRow) (.everyRow last)
  | conditions (lists : List (List Predicate)) :
      StandsFor (lists.map .conditions) (.conditions lists.flatten)
  | returning (lists : List (List Field)) :
      StandsFor (lists.map .returning) (.returning lists.flatten)

theorem call_comm (d : Delete) (x y : Call) (apart : x.clause ≠ y.clause) :
    (d.call x).call y = (d.call y).call x := by
  cases x <;> cases y <;> first | rfl | exact absurd rfl apart

theorem Call.StandsFor.calls_eq {several : List Call} {one : Call} (stands : StandsFor several one)
    (d : Delete) : d.calls several = d.call one := by
  cases stands with
  | ctes | conditions | returning =>
      apply Build.foldl_appending
      · rintro ⟨⟩
        simp only [call, List.append_nil]
      · intro d a b
        simp only [call, List.append_assoc]
  | everyRow =>
      apply Build.foldl_replacing
      exact fun _ _ _ => rfl

end Delete

namespace Build

/-- The clauses of a SELECT, an UPDATE and a DELETE are built apart. Two sequences of calls build
the same statement if for each clause they have the same calls in the same order, or one of them has
a single call with the lists of several one after the other, or with the last of them where the
clause holds one thing. -/
theorem clauses_built_apart :
    (∀ (s : Select) (a b : List Select.Call),
      SameClauses Select.Call.clause Select.Call.StandsFor a b → s.calls a = s.calls b) ∧
    (∀ (u : Update) (a b : List Update.Call),
      SameClauses Update.Call.clause Update.Call.StandsFor a b → u.calls a = u.calls b) ∧
    ∀ (d : Delete) (a b : List Delete.Call),
      SameClauses Delete.Call.clause Delete.Call.StandsFor a b → d.calls a = d.calls b :=
  ⟨fun s _ _ same => foldl_eq_of_sameClauses Select.call_comm
      (fun _ _ stands => stands.calls_eq) same s,
    fun u _ _ same => foldl_eq_of_sameClauses Update.call_comm
      (fun _ _ stands => stands.calls_eq) same u,
    fun d _ _ same => foldl_eq_of_sameClauses Delete.call_comm
      (fun _ _ stands => stands.calls_eq) same d⟩

/-- Calls for one clause between others, conditions given one by one, two limits, columns set twice
at once and again, and a permission that is taken back. -/
theorem clauses_built_apart_interleaved :
    let a := Field.bare "a"
    let b := Field.bare "b"
    let one := Field.value (.int 1)
    let two := Field.value (.int 2)
    let cats := Join.mk .left (.table (.named "cat")) []
    let dogs := Join.mk .right (.table (.named "dog")) []
    let is (f : Field) : Predicate := .compare f .eq one
    let selecting : List Select.Call :=
      [.conditions [is a], .limit 5, .join cats, .distinct, .conditions [is b, is one], .fields [b],
        .join dogs, .limit 2, .distinct]
    let updating : List Update.Call :=
      [.settings [.set a one, .set a two], .returning [a], .assignments [⟨b, one⟩],
        .conditions [is b], .settings [.set a two], .returning [b]]
    let deleting : List Delete.Call := [.everyRow true, .conditions [is a], .everyRow false]
    (∀ s : Select, s.calls selecting = s.calls
      [.join cats, .join dogs, .limit 2, .fields [b], .conditions [is a, is b, is one],
        .distinct]) ∧
    (∀ u : Update, u.calls updating = u.calls
      [.returning [a, b], .conditions [is b], .assignments [⟨a, one⟩, ⟨b, one⟩, ⟨a, two⟩]]) ∧
    ∀ d : Delete, d.calls deleting = d.calls [.conditions [is a], .everyRow false] := by
  intro a b one two cats dogs is selecting updating deleting
  refine ⟨fun s => ?_, fun u => ?_, fun d => ?_⟩
  · apply clauses_built_apart.1
    intro k
    cases k with
    | conditions => exact .inr ⟨_, .conditions [[is a], [is b, is one]], rfl⟩
    | limit => exact .inr ⟨_, .limit [5] 2, rfl⟩
    | distinct => exact .inr ⟨_, .distinct 1, rfl⟩
    | ctes | fields | source | joins | grouping | having | ordering | offset => exact .inl rfl
  · apply clauses_built_apart.2.1
    intro k
    cases k with
    | assignments =>
        have same : a.sameExpr a = true := by decide +kernel
        have first : Setting.collect [.set a one, .set a two] = [⟨a, one⟩] := by
          simp [Setting.collect, Setting.add, Setting.assignment, same]
        refine .inr ⟨_, .assignments
          [.settings [.set a one, .set a two], .assignments [⟨b, one⟩], .settings [.set a two]]
          (by decide), ?_⟩
        simp only [List.flatMap_cons, Update.Call.assigned, first]
        rfl
    | returning => exact .inr ⟨_, .returning [[a], [b]], rfl⟩
    | ctes | source | joins | conditions => exact .inl rfl
  · apply clauses_built_apart.2.2
    intro k
    cases k with
    | everyRow => exact .inr ⟨_, .everyRow [true] false, rfl⟩
    | ctes | conditions | returning => exact .inl rfl

end Build

end SqlTree
