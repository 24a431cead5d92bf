import SqlTree.Proofs.Statement.Placeholders
import SqlTree.Proofs.Tree.WithHeads

namespace SqlTree.Query

theorem shows_lists {q : Query} {d : Dialect} {b : Built}
    (wordless : q.Each TextRule.wordless.everywhere) (built : q.build d = .ok b) :
    Text.Shows d q.withLists b.sql.toList := by
  rw [(built_eq built).1]
  exact Script.shows_query d q wordless (build_eq_ok.mp built).1 (Renderer.new d) rfl

/-- Unless a text that the tree brings along has the word `RECURSIVE` or a template is completed to
it, a finished statement has the word as often as it writes a WITH list with a recursive member. All
the WITH lists stand in it, each with its definitions in their order, and the word stands right
behind the `WITH` of those that have a recursive member. -/
theorem recursive_follows_with (q : Query) (d : Dialect) (b : Built)
    (wordless : q.Each TextRule.wordless.everywhere) (built : q.build d = .ok b) :
    (Text.occurrences Text.recursive b.sql.toList).length =
        q.withLists.countP (·.any Cte.isRecursive) ∧
      ∃ heads : List WithHead, (heads.map WithHead.ctes).Perm q.withLists ∧
        Text.Heads d heads b.sql.toList := by
  obtain ⟨heads, lists, stand⟩ := shows_lists wordless built
  refine ⟨?_, heads, lists, stand⟩
  calc
    (Text.occurrences Text.recursive b.sql.toList).length =
        heads.countP (·.isRecursive) := by
      rw [stand.words, WithHead.words, List.length_map, List.countP_eq_length_filter]
    _ = (heads.map WithHead.ctes).countP (·.any Cte.isRecursive) := by
      rw [List.countP_map]
      rfl
    _ = q.withLists.countP (·.any Cte.isRecursive) := lists.countP_eq _

theorem ancestors_wordless : ancestors.Each TextRule.wordless.everywhere := by
  have slots : Text.SlotsKeep (Script.slotTexts "COALESCE(?, 0 + ?)".toList) 2 :=
    .of_borders (by decide) (by decide) (by decide)
  simp only [ancestors, Query.Each, Query.EachOption, Select.Each, Cte.EachOf, Cte.Each,
    CteBody.Each, RecursiveStep.EachOption, Source.EachOption, Source.Each, Join.EachOf, Join.Each,
    Predicate.EachOf, Predicate.Each, Field.EachOf, Field.Each, Expr.Each, Field.qualified,
    Field.bare, Field.ofExpr, Field.value, Field.shared, Field.ordered, TextRule.everywhere,
    TextRule.wordless, TextRule.withoutWord, TextRule.table, TextRule.optional_none,
    TextRule.optional_some, TextRule.expr, TextRule.source, TextRule.joinKind, List.length_cons,
    List.length_nil, slots, and_true, true_and]
  decide

theorem ancestors_recursive_once :
    ∃ b, ancestors.build .postgres = .ok b ∧
      (Text.occurrences Text.recursive b.sql.toList).length = 1 ∧
      ∃ heads : List WithHead, (heads.map WithHead.ctes).Perm ancestors.withLists ∧
        Text.Heads .postgres heads b.sql.toList := by
  obtain ⟨b, built⟩ : ∃ b, ancestors.build .postgres = .ok b := by
    rw [build_eq_script]
    exact ⟨_, rfl⟩
  exact ⟨b, built, recursive_follows_with ancestors .postgres b ancestors_wordless built⟩

def completed : Query := .select
  { ctes := [], distinct := false
    fields := [.ofExpr (.template "RECUR?" [.ofExpr (.template "SIVE" [])])]
    source := none, joins := [], conditions := [], grouping := [], having := [], ordering := []
    limit := none, offset := none }

/-- It has no WITH list and none of the texts in it has the word, but its SQL does. -/
theorem completed_recursive : completed.Each TextRule.withoutWord.everywhere ∧
    completed.withLists = [] ∧ ∀ d, ∃ b, completed.build d = .ok b ∧
      (Text.occurrences Text.recursive b.sql.toList).length = 1 := by
  refine ⟨?_, rfl, fun d => ?_⟩
  · simp only [completed, Query.Each, Select.Each, Cte.EachOf, Field.EachOf, Field.Each, Expr.Each,
      Source.EachOption, Join.EachOf, Predicate.EachOf, Field.ofExpr, TextRule.everywhere,
      TextRule.withoutWord, TextRule.optional_none, TextRule.expr, and_true, true_and]
    decide
  · rw [build_eq_script]
    cases d with
    | sqlite => exact ⟨_, rfl, by decide⟩
    | mysql => exact ⟨_, rfl, by decide⟩
    | postgres => exact ⟨_, rfl, by decide⟩

end SqlTree.Query
