import SqlTree.Proofs.Text.Tokens
import SqlTree.Proofs.Tree.Closed
import SqlTree.Proofs.Tree.Rendering

namespace SqlTree

namespace Text

/-- A text that leaves no quotes open and no parentheses outside of them. -/
def Enclosed (quote : Char) (text : List Char) : Prop :=
  (sides quote false text).2 = false ∧ openParens 0 (sides quote false text).1 = some 0

variable {quote : Char} {text a b : List Char}

theorem Enclosed.balanced (enclosed : Enclosed quote text) : Balanced quote text := by
  obtain ⟨tokens, read, outer⟩ := Lexer.outside.run_of_sides enclosed.1
  refine ⟨tokens, read, ?_⟩
  rw [outer]
  exact enclosed.2

theorem Enclosed.append (first : Enclosed quote a) (second : Enclosed quote b) :
    Enclosed quote (a ++ b) := by
  rw [Enclosed, sides_append, first.1]
  refine ⟨second.1, ?_⟩
  rw [openParens_append, first.2]
  exact second.2

theorem Plain.enclosed (plain : Plain text) (d : Dialect) : Enclosed d.quote text := by
  have quote : d.quote ∈ ['\'', '"', '\x60', '(', ')', ','] := by cases d <;> decide
  have bare : ∀ c ∈ text, c ≠ d.quote := by
    rintro c member rfl
    exact plain _ member quote
  rw [Enclosed, sides_of_unquoted bare]
  refine ⟨rfl, openParens_of_none ?_ 0⟩
  intro c member
  constructor <;> rintro rfl <;> exact plain _ member (by decide)

theorem sides_of_isSyntax {opened : Nat} {k : String} (plain : isSyntax opened k = true)
    (d : Dialect) : sides d.quote false k.toList = (k.toList, false) ∧
      openParens 0 k.toList = some opened := by
  simp only [isSyntax, Bool.and_eq_true, List.all_eq_true, decide_eq_true_eq, beq_iff_eq] at plain
  have quote : d.quote ∈ ['?', '$', '\'', '"', '\x60'] := by cases d <;> decide
  refine ⟨sides_of_unquoted ?_, plain.2⟩
  rintro c member rfl
  exact plain.1.1 _ member quote

theorem enclosed_of_isSyntax {k : String} (plain : isSyntax 0 k = true) (d : Dialect) :
    Enclosed d.quote k.toList := by
  obtain ⟨whole, opens⟩ := sides_of_isSyntax plain d
  rw [Enclosed, whole]
  exact ⟨rfl, opens⟩

theorem Enclosed.parens {k : String} {d : Dialect} (opens : isSyntax 1 k = true)
    (inner : Enclosed d.quote text) : Enclosed d.quote (k.toList ++ text ++ [')']) := by
  obtain ⟨whole, opened⟩ := sides_of_isSyntax opens d
  have last : sides d.quote false [')'] = ([')'], false) := by cases d <;> decide
  rw [Enclosed, sides_append, sides_append, whole, inner.1, last]
  refine ⟨rfl, ?_⟩
  rw [openParens_append, openParens_append, opened]
  have within := openParens_raise inner.2 1
  rw [Nat.zero_add] at within
  rw [Option.bind_some, within]
  rfl

end Text

theorem Ident.write_enclosed {d : Dialect} {name written : String}
    (ok : Ident.write d name = .ok written) : Text.Enclosed d.quote written.toList := by
  unfold Ident.write at ok
  simp only at ok
  split at ok
  · exact nomatch ok
  · split at ok
    · exact nomatch ok
    · split at ok
      case isTrue plain =>
        obtain rfl := Except.ok.inj ok
        exact (Ident.plain_of_isTail (Ident.isTail_of_isPlain plain)).enclosed d
      case isFalse =>
        obtain rfl := Except.ok.inj ok
        rw [String.toList_ofList, Text.Enclosed, Text.sides_quoted]
        exact ⟨rfl, rfl⟩

namespace Script

def Enclosed (d : Dialect) (s : Script) : Prop :=
  s.fault = none → ∀ r : Renderer, Text.Enclosed d.quote (r.written s)

variable {d : Dialect} {a b : Script}

theorem Enclosed.append (first : a.Enclosed d) (second : b.Enclosed d) : (a ++ b).Enclosed d := by
  intro ok r
  obtain ⟨left, right⟩ := append_isOk ok
  rw [r.written_append left]
  exact (first left r).append (second right _)

theorem enclosed_text {k : String} (enclosed : Text.Enclosed d.quote k.toList) :
    (Script.text k).Enclosed d := by
  intro _ r
  rwa [r.written_text]

theorem enclosed_failure (fault : Fault) : (Script.failure fault).Enclosed d :=
  fun none => nomatch none

theorem enclosed_empty : Script.empty.Enclosed d := fun _ _ => ⟨rfl, rfl⟩

theorem Enclosed.parens {k : String} {s : Script} (opens : isSyntax 1 k = true)
    (inner : s.Enclosed d) : (Script.text k ++ s ++ .text ")").Enclosed d := by
  intro ok r
  have left := (append_isOk ok).1
  rw [r.written_append_text left, r.written_text_append]
  exact (inner (append_isOk left).2 r).parens opens

theorem enclosed_ident (name : String) : (Script.ident d name).Enclosed d := by
  rw [Script.ident]
  cases written : Ident.write d name with
  | error refusal => exact enclosed_failure _
  | ok text => exact enclosed_text (Ident.write_enclosed written)

theorem enclosed_countRows (operands : List Script) :
    (Script.template "COUNT(*)" operands).Enclosed d := by
  have filled : fill (slotTexts "COUNT(*)".toList) operands = .text "COUNT(*)" := by
    cases operands <;> rfl
  rw [template, filled]
  refine (enclosed_text (Text.enclosed_of_isSyntax (by decide) d)).append ?_
  unfold require
  split
  · exact enclosed_empty
  · exact enclosed_failure _

end Script

/-- No template but the count of rows, and no join with a keyword of its own. -/
def TextRule.structured : TextRule where
  keyword _ := False
  template format _ := format = "COUNT(*)"

theorem enclosed_layout (d : Dialect) :
    Layout d .structured (Script.Enclosed d) (Script.Enclosed d) where
  of_tail enclosed := enclosed
  append := Script.Enclosed.append
  tail_append := Script.Enclosed.append
  empty := Script.enclosed_empty
  failure fault := Script.enclosed_failure fault
  syntax_text plain := Script.enclosed_text (Text.enclosed_of_isSyntax plain d)
  behind plain inner := (Script.enclosed_text (Text.enclosed_of_isSyntax plain d)).append inner
  enclosed plain inner := inner.parens plain
  integer n := Script.enclosed_text ((Text.plain_integer n.toInt).enclosed d)
  ident _ := Script.enclosed_ident _
  value v _ r := (Script.written_value r v).1.enclosed d
  shared {name v} _ _ r := (Script.written_shared r name v).1.enclosed d
  template {format operands} counts _ := by
    obtain rfl : format = "COUNT(*)" := counts
    exact Script.enclosed_countRows operands
  keyword impossible := impossible.elim

namespace Query

def Structured (q : Query) : Prop := q.Each TextRule.structured.everywhere

/-- With any strings for names, a structured statement has tokens in the dialect that it is built
for, and the parentheses among them open and close in order. -/
theorem structured_balanced (q : Query) (d : Dialect) (b : Built) (structured : q.Structured)
    (built : q.build d = .ok b) : Text.Balanced d.quote b.sql.toList := by
  obtain ⟨ok, rfl⟩ := build_eq_ok.mp built
  have enclosed := (enclosed_layout d).query q structured ok (Renderer.new d)
  have sql : ((Renderer.new d).write (q.script d)).sql.toList =
      (Renderer.new d).written (q.script d) := Renderer.write_sql (Renderer.new d) (q.script d)
  rw [Renderer.finish, sql]
  exact enclosed.balanced

/-- Names that look like quotes, parentheses and the end of a statement. -/
def adversary : Query :=
  let picked : Query := .select
    { ctes := [], distinct := false, fields := [.qualified ")\"" "id", .countRows]
      source := some (.table ⟨some "(", "x\x60y", some ")\""⟩), joins := []
      conditions := [.group .or [.compare (.bare "a\"\"(") .eq (.value (.text ")")),
        .inList (.bare "'") [.value (.int 1), .shared "n" (.int 2)] true] false]
      grouping := [.bare "\x60"], having := [], ordering := [], limit := none, offset := none }
  .insert
    { ctes := [⟨"c; --", none, ["((", "\""], .plain (some picked), none⟩], table := .named "\"(\""
      columns := [.bare ")"], rows := [[.value .null], [.scalar picked]], source := none
      conflict := none, returning := [], fault := none }

theorem adversary_structured : adversary.Structured := by
  simp [adversary, Structured, Query.Each, Query.EachOption, Insert.Each, Select.Each,
    Select.EachOption, Cte.EachOf, Cte.Each, CteBody.Each, Source.EachOption, Source.Each,
    Join.EachOf, Predicate.EachOf, Predicate.Each, Field.EachOf, Field.EachRow, Field.Each,
    Expr.Each, Conflict.EachOption, Field.qualified, Field.bare, Field.ofExpr, Field.value,
    Field.shared, Field.raw, Field.template, Field.countRows, Field.scalar, TextRule.everywhere,
    TextRule.structured, TextRule.table, TextRule.optional, TextRule.expr, TextRule.source]

theorem adversary_built (d : Dialect) : ∃ b, adversary.build d = .ok b := by
  rw [build_eq_script]
  cases d <;> exact ⟨_, rfl⟩

theorem adversary_balanced :
    (∃ b, adversary.build .postgres = .ok b ∧ Text.Balanced '"' b.sql.toList) ∧
    ∃ b, adversary.build .mysql = .ok b ∧ Text.Balanced '\x60' b.sql.toList := by
  obtain ⟨b, postgres⟩ := adversary_built .postgres
  obtain ⟨c, mysql⟩ := adversary_built .mysql
  exact ⟨⟨b, postgres, structured_balanced adversary .postgres b adversary_structured postgres⟩,
    ⟨c, mysql, structured_balanced adversary .mysql c adversary_structured mysql⟩⟩

end Query

end SqlTree
