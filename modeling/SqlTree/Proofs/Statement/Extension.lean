import SqlTree.Proofs.Statement.Placeholders
import SqlTree.Proofs.Tree.Adjacency

namespace SqlTree

def Text.readNumber (text : List Char) : Nat :=
  Nat.ofDigitChars 10 (text.tail.takeWhile Char.isDigit) 0

namespace Mark

theorem readNumber_numbered {n : Nat} {rest : List Mark}
    (ends : Text.opensWithDigit (sql rest).toList = false) :
    Text.readNumber (sql (numbered n :: rest)).toList = n := by
  have digits := Text.takeWhile_digits (fun c => Text.isDigit_of_mem_toDigits n (c := c)) ends
  calc
    Text.readNumber (sql (numbered n :: rest)).toList =
        Nat.ofDigitChars 10
          ((Nat.toDigits 10 n ++ (sql rest).toList).takeWhile Char.isDigit) 0 := by
      rw [toList_sql_cons, toList_written_numbered]
      rfl
    _ = n := by rw [digits, Nat.ofDigitChars_ten_toDigits]

/-- If no placeholder is followed by a digit, the one that ends there is not. -/
theorem Unextended.behind {before rest : List Mark} {n : Nat}
    (unextended : Unextended (before ++ numbered n :: rest)) :
    Text.opensWithDigit (sql rest).toList = false := by
  induction before with
  | nil => exact unextended.1
  | cons m others ih =>
      cases m with
      | text s => exact ih unextended
      | anonymous => exact ih unextended.2
      | numbered k => exact ih unextended.2

end Mark

namespace Query

/-- A finished statement is the marks of its pieces one behind the other. If none of its templates,
with its slots filled, puts a digit right behind a placeholder, none among the marks is followed by
one, so that the number read at each numbered placeholder is its own. For a template whose operands
put none there that is exactly what keeps its own placeholders from being extended. -/
theorem placeholders_end (d : Dialect) :
    (∀ (q : Query) (b : Built), q.Apart → q.build d = .ok b →
      let marks := (Renderer.new d).marks (q.script d).pieces
      b.sql = Mark.sql marks ∧ Mark.Unextended marks ∧
        ∀ before n behind, marks = before ++ .numbered n :: behind →
          Text.readNumber (Mark.sql (.numbered n :: behind)).toList = n) ∧
    ∀ (r : Renderer) (bare : List String) (format : String) (operands : List Field),
      let e := Expr.template format operands
      Field.EachOf .apart operands → (e.script d bare).fault = none →
        (Mark.Unextended (r.marks (e.script d bare).pieces) ↔ Glyph.apart e.glyphs = true) := by
  constructor
  · intro q b apart built
    have unextended : Mark.Unextended ((Renderer.new d).marks (q.script d).pieces) :=
      (Renderer.marks_unextended_iff _ _).mpr (apart.unextended (build_eq_ok.mp built).1)
    refine ⟨(built_eq built).1, unextended, ?_⟩
    intro before n behind split
    apply Mark.readNumber_numbered
    rw [split] at unextended
    exact unextended.behind
  · intro r bare format operands e each ok
    calc
      Mark.Unextended (r.marks (e.script d bare).pieces) ↔ (e.script d bare).Unextended :=
        r.marks_unextended_iff _
      _ ↔ Glyph.apart e.glyphs = true := Expr.template_unextended_iff each ok

/-- Digits behind a name, and a placeholder behind another with an operand between them. -/
def adjoining : Query := .select
  { ctes := [], distinct := false
    fields := [.template "?2" [.bare "x"],
      .template "???" [.value (.int 7), .template "-1" [], .shared "top" (.int 9)]]
    source := none, joins := [], conditions := [], grouping := [], having := [], ordering := []
    limit := none, offset := none }

theorem adjoining_ends :
    adjoining.Apart ∧ ∃ b, adjoining.build .postgres = .ok b ∧ b.sql = "SELECT x2, $1-1$2" ∧
      Mark.Unextended ((Renderer.new .postgres).marks (adjoining.script .postgres).pieces) ∧
      Text.readNumber "$1-1$2".toList = 1 ∧
      ¬Mark.Unextended ((Renderer.new .postgres).marks
        ((Expr.template "?1" [.value (.int 7)]).script .postgres []).pieces) := by
  have apart : adjoining.Apart := by
    simp only [adjoining, Apart, Query.Each, Select.Each, Cte.EachOf, Field.EachOf, Field.Each,
      Expr.Each, Source.EachOption, Join.EachOf, Predicate.EachOf, Field.template, Field.ofExpr,
      Field.bare, Field.qualified, Field.value, Field.shared, NodeProperty.apart, and_true,
      true_and]
    decide
  obtain ⟨b, built, written⟩ : ∃ b, adjoining.build .postgres = .ok b ∧
      b.sql = "SELECT x2, $1-1$2" := by
    rw [build_eq_script]
    exact ⟨_, rfl, rfl⟩
  obtain ⟨sql, unextended, numbers⟩ := (placeholders_end .postgres).1 adjoining b apart built
  have first := numbers
    [.text "SELECT ", .text "", .text "x", .text "2", .text ", ", .text ""] 1
    [.text "", .text "-1", .text "", .numbered 2, .text ""] rfl
  have alone := (placeholders_end .postgres).2 (.new .postgres) [] "?1" [.value (.int 7)]
    ⟨⟨trivial, rfl⟩, trivial⟩ rfl
  exact ⟨apart, b, built, written, unextended, first,
    fun kept => absurd (alone.mp kept) (by decide)⟩

def extended : Query := .select
  { ctes := [], distinct := false, fields := [.template "?1" [.value (.int 7)]]
    source := none, joins := [], conditions := [], grouping := [], having := [], ordering := []
    limit := none, offset := none }

/-- The placeholder is the first, but the number read from the text is eleven. -/
theorem extended_number :
    ∃ b before behind, extended.build .postgres = .ok b ∧ b.sql = "SELECT $11" ∧
      b.args = [.int 7] ∧
      (Renderer.new .postgres).marks (extended.script .postgres).pieces =
        before ++ .numbered 1 :: behind ∧
      Text.opensWithDigit (Mark.sql behind).toList = true ∧
      Text.readNumber (Mark.sql (.numbered 1 :: behind)).toList = 11 := by
  rw [build_eq_script]
  exact ⟨_, [.text "SELECT ", .text ""], [.text "1"], rfl, rfl, rfl, rfl, by decide, by decide⟩

end Query

end SqlTree
