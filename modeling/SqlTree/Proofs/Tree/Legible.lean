import SqlTree.Proofs.Tree.Layout
import SqlTree.Proofs.Tree.Signs
import SqlTree.Tree.Fields

namespace SqlTree

/-- Signs of placeholders stand nowhere but in templates, where they are slots with operands. -/
def TextRule.legible : TextRule where
  name name := Text.Unsigned name.toList
  keyword keyword := Text.Unsigned keyword.toList
  template format operands :=
    '$' ∉ format.toList ∧ format.toList.count '?' ≤ operands ∧
      Script.slotsApart format.toList = true

def Query.Legible (q : Query) : Prop := q.Each TextRule.legible.everywhere

theorem isSyntax_unsigned {opened : Nat} {text : String} (plain : isSyntax opened text = true) :
    Text.Unsigned text.toList := by
  simp only [isSyntax, Bool.and_eq_true, List.all_eq_true, decide_eq_true_eq] at plain
  exact ⟨fun member => plain.1.1 _ member (by decide), fun member => plain.1.1 _ member (by decide)⟩

theorem isSyntax_detached {opened : Nat} {text : String} (plain : isSyntax opened text = true) :
    Text.opensWithDigit text.toList = false ∧ text.toList ≠ [] := by
  simp only [isSyntax, Bool.and_eq_true] at plain
  have first := plain.1.2
  cases written : text.toList with
  | nil => simp [written] at first
  | cons c rest => simpa [written, Text.opensWithDigit] using first

theorem unsigned_layout (d : Dialect) : Layout d .legible Script.Unsigned Script.Unsigned where
  of_tail unsigned := unsigned
  append := Script.Unsigned.append
  tail_append := Script.Unsigned.append
  empty := List.forall_mem_nil _
  failure _ := List.forall_mem_nil _
  syntax_text plain := Script.unsigned_text (isSyntax_unsigned plain)
  behind plain inner := (Script.unsigned_text (isSyntax_unsigned plain)).append inner
  enclosed plain inner :=
    ((Script.unsigned_text (isSyntax_unsigned plain)).append inner).append
      (Script.unsigned_text (by decide))
  integer n := Script.unsigned_text (Text.integer_unsigned n.toInt)
  ident named := Script.ident_unsigned named
  value _ := List.forall_mem_singleton.mpr trivial
  shared _ := List.forall_mem_singleton.mpr trivial
  template allowed each := Script.template_unsigned allowed.1 allowed.2.1 each
  keyword allowed := Script.unsigned_text (JoinKind.keyword_unsigned allowed)

theorem unextended_frame (d : Dialect) (t : TextRule) :
    Frame d t Script.Unextended Script.Detached where
  of_tail detached := detached.1
  append := Script.Unextended.append
  tail_append := Script.Detached.append
  empty := ⟨trivial, rfl⟩
  failure _ := ⟨trivial, rfl⟩
  syntax_text plain := Script.detached_text (isSyntax_detached plain).1
  behind plain inner :=
    Script.detached_behind (isSyntax_detached plain).1 (isSyntax_detached plain).2 inner
  enclosed plain inner :=
    (Script.detached_behind (isSyntax_detached plain).1 (isSyntax_detached plain).2 inner).append
      (Script.detached_text rfl)
  integer _ := trivial
  ident _ := Script.ident_detached d _
  value _ := ⟨rfl, trivial⟩
  shared _ := ⟨rfl, trivial⟩
  keyword _ := trivial

/-- Slots that are apart are enough for placeholders not to be followed by digits. -/
theorem unextended_layout (d : Dialect) {t : TextRule}
    (apart : ∀ format operands, t.template format operands →
      Script.slotsApart format.toList = true) : Layout d t Script.Unextended Script.Detached where
  toFrame := unextended_frame d t
  template allowed each := Script.template_unextended (apart _ _ allowed) each

namespace Query.Legible

variable {q : Query} (legible : q.Legible) (r : Renderer) (d : Dialect)

include legible

theorem marks_unsigned : ∀ m ∈ r.marks (q.script d).pieces, m.unsigned :=
  r.marks_unsigned _ ((unsigned_layout d).query q legible)

theorem marks_unextended : Mark.Unextended (r.marks (q.script d).pieces) :=
  (r.marks_unextended_iff _).mpr
    ((unextended_layout d (t := .legible) fun _ _ allowed => allowed.2.2).query q legible).1

end Query.Legible

/-- Names above a given one, ranked: a recursive body, a join with a keyword of its own, a template,
a subquery, and an argument that is shared by all of them. -/
def Query.ancestors : Query :=
  let root := Field.shared "root" (.int 7)
  let start : Query := .select
    { ctes := [], distinct := false, fields := [.qualified "c" "id"]
      source := some (.table ⟨none, "cat", some "c"⟩), joins := []
      conditions := [.compare (.qualified "c" "id") .eq root]
      grouping := [], having := [], ordering := [], limit := none, offset := none }
  let step : Query := .select
    { ctes := [], distinct := false, fields := [.qualified "p" "id"]
      source := some (.table ⟨some "zoo", "cat", some "p"⟩)
      joins := [⟨.custom " STRAIGHT_JOIN ", .cte "up" none,
        [.compare (.qualified "up" "id") .eq (.qualified "p" "child")]⟩]
      conditions := [], grouping := [], having := [], ordering := [], limit := none
      offset := none }
  let ranked : Query := .select
    { ctes := [], distinct := true, fields := [.qualified "k" "id"]
      source := some (.table ⟨none, "kind", some "k"⟩), joins := []
      conditions := [.compare (.qualified "k" "root") .ne root,
        .between (.qualified "k" "rank") (.value (.int 1)) (.value (.text "it's")) false]
      grouping := [], having := [], ordering := [], limit := none, offset := none }
  .select
    { ctes := [⟨"up", none, ["id"], .recursive (some start) (some ⟨.all, step⟩), none⟩]
      distinct := false
      fields := [.bare "id",
        ⟨.template "COALESCE(?, 0 + ?)" [.value .null, root], some "my rank", none, none⟩]
      source := some (.cte "up" none), joins := []
      conditions := [.inQuery (.bare "id") ranked false, .not (.isNull (.bare "id") false)]
      grouping := [], having := [], ordering := [(Field.bare "id").ordered .descending]
      limit := some 10, offset := none }

theorem Query.ancestors_legible : Query.ancestors.Legible := by
  simp only [Query.ancestors, Query.Legible, Query.Each, Query.EachOption, Select.Each,
    Cte.EachOf, Cte.Each, CteBody.Each, RecursiveStep.EachOption, Source.EachOption, Source.Each,
    Join.EachOf, Join.Each, Predicate.EachOf, Predicate.Each, Field.EachOf, Field.Each, Expr.Each,
    Field.qualified, Field.bare, Field.ofExpr, Field.value, Field.shared, Field.ordered,
    TextRule.everywhere, TextRule.legible, TextRule.table, TextRule.optional_none,
    TextRule.optional_some, TextRule.expr, TextRule.source, TextRule.joinKind, List.length_cons,
    List.length_nil, and_true, true_and]
  decide

end SqlTree
