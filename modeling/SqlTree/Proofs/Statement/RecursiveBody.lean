import Mathlib.Data.List.Induction
import SqlTree.Build.Cte
import SqlTree.Build.Select
import SqlTree.Proofs.Renderer.Lists
import SqlTree.Tree.Fields
import SqlTree.Tree.Script

/-!
Recursive common table expressions. However many calls build one and in whatever order, it is made
from the last call of each kind. It is written exactly if there is an initial query and a step that
are written and have as many columns as were declared, and then both of them stand in its body.
-/

namespace SqlTree

def Ident.shown (d : Dialect) (name : String) : List Char :=
  match Ident.write d name with
  | .ok text => text.toList
  | .error _ => []

/-- A query has as many columns as were declared, as far as both are known. -/
def Query.FitsColumns (columns : List String) (q : Query) : Prop :=
  columns ≠ [] → q.width = none ∨ q.width = some columns.length

namespace Script

variable {d : Dialect}

theorem fault_checkWidth_iff {node : Node} {columns : List String} {branch : CteBranch}
    {q : Query} : (checkWidth node columns branch q).fault = none ↔ q.FitsColumns columns := by
  unfold checkWidth Query.FitsColumns
  cases q.width with
  | none => exact iff_of_true rfl fun _ => .inl rfl
  | some width =>
      rw [fault_require_iff, Bool.or_eq_true, List.isEmpty_iff, beq_iff_eq]
      simp only [reduceCtorEq, false_or, Option.some.injEq]
      exact Decidable.or_iff_not_imp_left

theorem checkWidth_of_fits {node : Node} {columns : List String} {branch : CteBranch} {q : Query}
    (fits : q.FitsColumns columns) : checkWidth node columns branch q = .empty := by
  have ok : (checkWidth node columns branch q).fault = none := fault_checkWidth_iff.mpr fits
  unfold checkWidth at ok ⊢
  split
  · rfl
  · next width known =>
    simp only [known] at ok
    rw [require, if_pos (fault_require_iff.mp ok)]

end Script

namespace Renderer

variable (r : Renderer) (d : Dialect)

theorem written_ident (name : String) : r.written (.ident d name) = Ident.shown d name := by
  rw [Script.ident, Ident.shown]
  cases Ident.write d name with
  | ok text => exact r.written_text text
  | error refusal => rfl

theorem write_ident (name : String) : (r.write (.ident d name)).untexted = r.untexted := by
  rw [Script.ident]
  cases Ident.write d name <;> rfl

theorem writeEach_idents (names : List String) :
    (r.writeEach (names.map (.ident d))).untexted = r.untexted := by
  induction names generalizing r with
  | nil => rfl
  | cons name rest ih => exact (ih (r.write (.ident d name))).trans (r.write_ident d name)

theorem writtenEach_idents (names : List String) :
    r.writtenEach (names.map (.ident d)) = names.map (Ident.shown d) := by
  induction names generalizing r with
  | nil => rfl
  | cons name rest ih =>
      rw [List.map_cons, writtenEach, written_ident,
        writtenEach_congr (r.write_ident d name), ih, List.map_cons]

end Renderer

/-! ### The list of declared columns -/

namespace Script

variable (d : Dialect) (columns : List String)

def columnList : Script :=
  onlyIf (!columns.isEmpty) (text " " ++ parens (separated ", " (columns.map (ident d))))

theorem fault_columnList_iff :
    (columnList d columns).fault = none ↔ ∀ n ∈ columns, (Ident.write d n).isOk = true := by
  cases columns with
  | nil => exact iff_of_true rfl (List.forall_mem_nil _)
  | cons first rest =>
      have written : columnList d (first :: rest) =
          text " " ++ parens (separated ", " ((first :: rest).map (ident d))) := rfl
      rw [written, fault_append_iff, fault_parens_iff, fault_separated_iff, List.forall_mem_map]
      simp only [fault_ident_iff]
      exact and_iff_right rfl

end Script

def Ident.columnsShown (d : Dialect) : List String → List Char
  | [] => []
  | columns => ' ' :: Text.tuple (columns.map (shown d))

theorem Renderer.written_columnList (r : Renderer) {d : Dialect} {columns : List String}
    (ok : (Script.columnList d columns).fault = none) :
    r.written (.columnList d columns) = Ident.columnsShown d columns ∧
      (r.write (.columnList d columns)).untexted = r.untexted := by
  cases columns with
  | nil => exact ⟨rfl, rfl⟩
  | cons first rest =>
      let names := (first :: rest).map (Script.ident d)
      have whole : Script.columnList d (first :: rest) =
          .text " " ++ .parens (.separated ", " names) := rfl
      rw [whole] at ok ⊢
      have inside := Script.fault_parens_iff.mp (Script.append_isOk ok).2
      have each := Script.separated_isOk inside
      constructor
      · rw [r.written_text_append, r.written_parens inside, r.written_separated ", " each,
          r.writtenEach_idents]
        rfl
      · calc
          (r.write (.text " " ++ .parens (.separated ", " names))).untexted =
              ((r.push " ").write (.separated ", " names)).untexted := by
            rw [r.write_append rfl, Renderer.write_text, Renderer.write_parens _ inside]
          _ = ((r.push " ").writeEach names).untexted := Renderer.write_separated _ ", " each
          _ = r.untexted := Renderer.writeEach_idents _ d (first :: rest)

namespace Cte

def RecursiveCall.initial? : RecursiveCall → Option Query
  | .initial query => some query
  | .step .. | .asName _ | .materialized _ => none

def RecursiveCall.step? : RecursiveCall → Option RecursiveStep
  | .step kind query => some ⟨kind, query⟩
  | .initial _ | .asName _ | .materialized _ => none

def RecursiveCall.asName? : RecursiveCall → Option String
  | .asName name => some name
  | .initial _ | .step .. | .materialized _ => none

def RecursiveCall.hint? : RecursiveCall → Option Bool
  | .materialized hint => some hint
  | .initial _ | .step .. | .asName _ => none

def lastOf {α : Type} (given : RecursiveCall → Option α) (list : List RecursiveCall) : Option α :=
  (list.filterMap given).getLast?

theorem lastOf_append {α : Type} (given : RecursiveCall → Option α) (list : List RecursiveCall)
    (call : RecursiveCall) :
    lastOf given (list ++ [call]) = (given call).or (lastOf given list) := by
  rw [lastOf, lastOf, List.filterMap_append, List.getLast?_append]
  cases own : given call <;> simp [own]

theorem recursiveCalls_eq (name : String) (columns : List String) (list : List RecursiveCall) :
    (recursive name columns).recursiveCalls list =
      { name := name, columns := columns
        asName := (lastOf RecursiveCall.asName? list).filter (· ≠ "")
        body := .recursive (lastOf RecursiveCall.initial? list)
          (lastOf RecursiveCall.step? list)
        materialized := lastOf RecursiveCall.hint? list } := by
  induction list using List.reverseRecOn with
  | nil => rfl
  | append_singleton list call ih =>
      have last : (recursive name columns).recursiveCalls (list ++ [call]) =
          ((recursive name columns).recursiveCalls list).recursiveCall call := List.foldl_append
      rw [last, ih]
      simp only [lastOf_append]
      cases call with
      | initial query => rfl
      | step kind query => rfl
      | asName other =>
          have cleared : (if other = "" then none else some other) =
              (some other).filter (· ≠ "") := by
            by_cases empty : other = "" <;> simp [Option.filter, empty]
          simp only [recursiveCall, aliased, cleared]
          rfl
      | materialized hint => rfl

def hintText (d : Dialect) (hint : Option Bool) : List Char :=
  match d, hint with
  | .postgres, some true => "MATERIALIZED ".toList
  | .postgres, some false => "NOT MATERIALIZED ".toList
  | .postgres, none | .sqlite, _ | .mysql, _ => []

theorem written_materialization (r : Renderer) (d : Dialect) (hint : Option Bool) :
    (Script.materialization d hint).fault = none ∧
      r.written (.materialization d hint) = hintText d hint ∧
      (r.write (.materialization d hint)).untexted = r.untexted := by
  have text (k : String) : (Script.text k).fault = none ∧ r.written (.text k) = k.toList ∧
      (r.write (.text k)).untexted = r.untexted := ⟨rfl, r.written_text k, r.untexted_push k⟩
  rcases hint with _ | _ | _
  · cases d <;> exact ⟨rfl, rfl, rfl⟩
  · cases d with
    | postgres => exact text "NOT MATERIALIZED "
    | sqlite => exact ⟨rfl, rfl, rfl⟩
    | mysql => exact ⟨rfl, rfl, rfl⟩
  · cases d with
    | postgres => exact text "MATERIALIZED "
    | sqlite => exact ⟨rfl, rfl, rfl⟩
    | mysql => exact ⟨rfl, rfl, rfl⟩

def heading (d : Dialect) (name : String) (columns : List String) (hint : Option Bool) : Script :=
  .ident d name ++ .columnList d columns ++ .text " AS " ++ .materialization d hint

theorem fault_heading_iff {d : Dialect} {name : String} {columns : List String}
    {hint : Option Bool} : (heading d name columns hint).fault = none ↔
      ∀ n ∈ name :: columns, (Ident.write d n).isOk = true := by
  rw [heading, Script.fault_append_iff, Script.fault_append_iff, Script.fault_append_iff,
    Script.fault_ident_iff, Script.fault_columnList_iff, List.forall_mem_cons]
  have plain := (written_materialization (.new d) d hint).1
  constructor
  · exact fun parts => parts.1.1
  · exact fun names => ⟨⟨names, rfl⟩, plain⟩

theorem written_heading (r : Renderer) {d : Dialect} {name : String} {columns : List String}
    {hint : Option Bool} (ok : (heading d name columns hint).fault = none) :
    r.written (heading d name columns hint) = Ident.shown d name ++ Ident.columnsShown d columns ++
        " AS ".toList ++ hintText d hint ∧
      (r.write (heading d name columns hint)).untexted = r.untexted := by
  obtain ⟨front, -⟩ := Script.append_isOk ok
  obtain ⟨names, -⟩ := Script.append_isOk front
  obtain ⟨own, list⟩ := Script.append_isOk names
  obtain ⟨columnsText, columnsKept⟩ := (r.write (.ident d name)).written_columnList list
  obtain ⟨-, hinted, kept⟩ := written_materialization
    (r.write (.ident d name ++ .columnList d columns ++ .text " AS ")) d hint
  constructor
  · rw [heading, r.written_append front, r.written_append_text names, r.written_append own,
      r.written_ident, columnsText, hinted]
  · calc
      (r.write (heading d name columns hint)).untexted =
          (r.write (.ident d name ++ .columnList d columns ++ .text " AS ")).untexted := by
        rw [heading, r.write_append front, kept]
      _ = ((r.write (.ident d name)).write (.columnList d columns)).untexted := by
        rw [r.write_append names, r.write_append own, Renderer.write_text, Renderer.untexted_push]
      _ = r.untexted := by rw [columnsKept, r.write_ident]

theorem script_recursive (d : Dialect) (name : String) (asName : Option String)
    (columns : List String) (initial : Option Query) (step : Option RecursiveStep)
    (hint : Option Bool) :
    script d ⟨name, asName, columns, .recursive initial step, hint⟩ =
      heading d name columns hint ++ .parens (.recursiveBody name columns initial step
        (Query.scriptOrEmpty d initial) (RecursiveStep.scriptOrEmpty d step)) := rfl

theorem fault_recursiveBody_iff {d : Dialect} {name : String} {columns : List String}
    {initial : Option Query} {step : Option RecursiveStep} :
    (Script.recursiveBody name columns initial step (Query.scriptOrEmpty d initial)
      (RecursiveStep.scriptOrEmpty d step)).fault = none ↔
      ∃ i s, initial = some i ∧ step = some s ∧
        ((i.script d).fault = none ∧ i.FitsColumns columns) ∧
        ((s.query.script d).fault = none ∧ s.query.FitsColumns columns) := by
  rcases initial with _ | i
  · simp [Script.recursiveBody, Script.failure]
  · rcases step with _ | ⟨kind, query⟩
    · simp [Script.recursiveBody, Script.failure]
    · simp only [Script.recursiveBody, Script.fault_append_iff, Script.fault_checkWidth_iff,
        Query.scriptOrEmpty, RecursiveStep.scriptOrEmpty, Option.some.injEq]
      constructor
      · rintro ⟨⟨⟨⟨first, second⟩, initial⟩, -⟩, step⟩
        exact ⟨i, ⟨kind, query⟩, rfl, rfl, ⟨initial, first⟩, step, second⟩
      · rintro ⟨_, _, rfl, rfl, ⟨initial, first⟩, step, second⟩
        exact ⟨⟨⟨⟨first, second⟩, initial⟩, rfl⟩, step⟩

theorem written_recursive (r : Renderer) {d : Dialect} {name : String} {asName : Option String}
    {columns : List String} {initial query : Query} {kind : UnionKind} {hint : Option Bool}
    (ok : (script d ⟨name, asName, columns, .recursive (some initial) (some ⟨kind, query⟩),
      hint⟩).fault = none) :
    r.written (script d ⟨name, asName, columns, .recursive (some initial) (some ⟨kind, query⟩),
        hint⟩) =
      Ident.shown d name ++ Ident.columnsShown d columns ++ " AS ".toList ++ hintText d hint ++
        '(' :: (r.written (initial.script d) ++ kind.separator.toList ++
          (r.write (initial.script d)).written (query.script d) ++ [')']) ∧
    (r.write (script d ⟨name, asName, columns, .recursive (some initial) (some ⟨kind, query⟩),
        hint⟩)).untexted =
      ((r.write (initial.script d)).write (query.script d)).untexted := by
  rw [script_recursive] at ok ⊢
  obtain ⟨head, body⟩ := Script.append_isOk ok
  have inside := Script.fault_parens_iff.mp body
  obtain ⟨i, s, ownInitial, ownStep, ⟨first, fits⟩, -, stepFits⟩ :=
    fault_recursiveBody_iff.mp inside
  cases ownInitial
  cases ownStep
  have plain : Script.recursiveBody name columns (some initial) (some ⟨kind, query⟩)
      (Query.scriptOrEmpty d (some initial)) (RecursiveStep.scriptOrEmpty d (some ⟨kind, query⟩)) =
        initial.script d ++ .text kind.separator ++ query.script d := by
    simp only [Script.recursiveBody, Script.checkWidth_of_fits fits,
      Script.checkWidth_of_fits stepFits, Script.empty_append]
    rfl
  rw [plain] at inside ⊢
  have front := (Script.append_isOk inside).1
  obtain ⟨heading, alike⟩ := written_heading r head
  have between : ((r.write (initial.script d)).push kind.separator).untexted =
      (r.write (initial.script d)).untexted := Renderer.untexted_push ..
  constructor
  · rw [r.written_append head, heading, Renderer.written_parens _ inside,
      Renderer.written_congr alike, r.written_append front, r.written_append_text first,
      r.write_append first, Renderer.write_text, Renderer.written_congr between]
  · calc
      _ = (r.write (initial.script d ++ .text kind.separator ++ query.script d)).untexted := by
        rw [r.write_append head, Renderer.write_parens _ inside, Renderer.write_untexted alike]
      _ = _ := by
        rw [r.write_append front, r.write_append first, Renderer.write_text,
          Renderer.write_untexted between]

/-- A recursive common table expression is made of the last initial query, the last step with its
kind of union, the last alias and the last hint that it was given, whatever else was called and in
whatever order. Its definition is written exactly if its names are written, there are an initial
query and a step, both are written, and neither is known to have another number of columns than is
declared. Then it is its name, the declared columns if there are any, the hint where there are
hints, and both branches with their union between them; the arguments of the initial query stand
before those of the step, which is written as it is behind the initial query. -/
theorem recursive_by_last_calls (name : String) (columns : List String) :
    (∀ list other : List RecursiveCall,
      lastOf RecursiveCall.initial? list = lastOf RecursiveCall.initial? other →
      lastOf RecursiveCall.step? list = lastOf RecursiveCall.step? other →
      lastOf RecursiveCall.asName? list = lastOf RecursiveCall.asName? other →
      lastOf RecursiveCall.hint? list = lastOf RecursiveCall.hint? other →
      (recursive name columns).recursiveCalls list =
        (recursive name columns).recursiveCalls other) ∧
    ∀ (list : List RecursiveCall) (d : Dialect),
      let c := (recursive name columns).recursiveCalls list
      ((c.script d).fault = none ↔
        (∀ n ∈ name :: columns, (Ident.write d n).isOk = true) ∧
        ∃ i s, lastOf RecursiveCall.initial? list = some i ∧
          lastOf RecursiveCall.step? list = some s ∧
          ((i.script d).fault = none ∧ i.FitsColumns columns) ∧
          ((s.query.script d).fault = none ∧ s.query.FitsColumns columns)) ∧
      ∀ i s, lastOf RecursiveCall.initial? list = some i →
        lastOf RecursiveCall.step? list = some s → (c.script d).fault = none →
        ∀ r : Renderer,
          r.written (c.script d) =
            Ident.shown d name ++ Ident.columnsShown d columns ++ " AS ".toList ++
              hintText d (lastOf RecursiveCall.hint? list) ++
              '(' :: (r.written (i.script d) ++ s.kind.separator.toList ++
                (r.write (i.script d)).written (s.query.script d) ++ [')']) ∧
          (r.write (c.script d)).untexted =
            ((r.write (i.script d)).write (s.query.script d)).untexted ∧
          ∃ first second, (r.write (i.script d)).args = r.args ++ first ∧
            (r.write (c.script d)).args = r.args ++ first ++ second := by
  constructor
  · intro list other initial step asName hint
    rw [recursiveCalls_eq, recursiveCalls_eq, initial, step, asName, hint]
  · intro list d c
    have made : c = _ := recursiveCalls_eq name columns list
    rw [made]
    constructor
    · rw [script_recursive, Script.fault_append_iff, Script.fault_parens_iff, fault_heading_iff,
        fault_recursiveBody_iff]
    · rintro i ⟨kind, query⟩ initial step ok r
      rw [initial, step] at ok ⊢
      obtain ⟨text, behind⟩ := written_recursive r ok
      refine ⟨text, behind, ?_⟩
      obtain ⟨first, initialArgs⟩ := Renderer.args_prefix r (i.script d).pieces
      obtain ⟨second, stepArgs⟩ :=
        Renderer.args_prefix (r.write (i.script d)) (query.script d).pieces
      have sameArgs := congrArg Renderer.args behind
      refine ⟨first, second, initialArgs.symm, ?_⟩
      calc
        _ = ((r.write (i.script d)).write (query.script d)).args := sameArgs
        _ = (r.write (i.script d)).args ++ second := stepArgs.symm
        _ = r.args ++ first ++ second := congrArg (· ++ second) initialArgs.symm

/-- A step before the initial query it continues, and both given twice. -/
def countingCalls : List RecursiveCall :=
  [.step .distinct first, .materialized true, .initial next, .step .all next, .initial first,
    .asName "c", .materialized false]
where
  first : Query := .select (.ofFields [.value (.int 1)])
  next : Query := .select
    { Select.ofFields [.ofExpr (.template "i + ?" [.value (.int 2)])] with
      source := some (.cte "counting" none) }

theorem counting_by_last_calls :
    let c := (recursive "counting" ["i"]).recursiveCalls countingCalls
    c = (recursive "counting" ["i"]).recursiveCalls
      [.asName "c", .initial countingCalls.first, .materialized false,
        .step .all countingCalls.next] ∧
    (c.script .postgres).fault = none ∧
    (Renderer.new .postgres).written (c.script .postgres) =
      ("counting (i) AS NOT MATERIALIZED " ++
        "(SELECT $1 UNION ALL SELECT i + $2 FROM counting)").toList ∧
    ((Renderer.new .postgres).write (c.script .postgres)).args = [.int 1, .int 2] := by
  intro c
  have same := (recursive_by_last_calls "counting" ["i"]).1 countingCalls
    [.asName "c", .initial countingCalls.first, .materialized false, .step .all countingCalls.next]
    rfl rfl rfl rfl
  obtain ⟨written, shape⟩ :=
    (recursive_by_last_calls "counting" ["i"]).2 countingCalls .postgres
  have ok : (c.script .postgres).fault = none :=
    written.mpr ⟨by decide, _, _, rfl, rfl, ⟨rfl, fun _ => .inr rfl⟩, rfl, fun _ => .inr rfl⟩
  obtain ⟨text, behind, -⟩ := shape _ _ rfl rfl ok (.new .postgres)
  have args : ((Renderer.new .postgres).write (c.script .postgres)).args = [.int 1, .int 2] := rfl
  exact ⟨same, ok, text.trans (by decide), args⟩

end Cte

end SqlTree
