import SqlTree.Proofs.Statement.Placeholders
import SqlTree.Proofs.Tree.Agreement

namespace SqlTree

def TextRule.named (valueOf : String → Value) : TextRule where
  shared name v := v = valueOf name

def Script.Named (valueOf : String → Value) (s : Script) : Prop :=
  ∀ slot ∈ Piece.slots s.pieces, ∀ name ∈ slot.1, slot.2 = valueOf name

namespace Script

variable {valueOf : String → Value}

theorem named_of_text {text : String} : (Script.text text).Named valueOf := List.forall_mem_nil _

theorem Named.append {a b : Script} (first : a.Named valueOf) (second : b.Named valueOf) :
    (a ++ b).Named valueOf := by
  rw [Named, pieces_append]
  split
  · rw [Piece.slots, List.filterMap_append]
    exact List.forall_mem_append.mpr ⟨first, second⟩
  · exact first

theorem named_template (format : String) (operands : List Script)
    (each : ∀ s ∈ operands, s.Named valueOf) : (Script.template format operands).Named valueOf := by
  have filled (texts : List (List Char)) : (fill texts operands).Named valueOf := by
    fun_induction fill texts operands with
    | case1 => exact List.forall_mem_nil _
    | case2 last => exact named_of_text
    | case3 first rest more ih => exact (named_of_text.append named_of_text).append (ih each)
    | case4 first rest operand operands more ih =>
        obtain ⟨head, tail⟩ := List.forall_mem_cons.mp each
        exact (named_of_text.append head).append (ih tail)
  refine (filled _).append ?_
  unfold Script.require
  split <;> exact List.forall_mem_nil _

end Script

theorem named_layout (d : Dialect) (valueOf : String → Value) :
    Layout d (.named valueOf) (Script.Named valueOf) (Script.Named valueOf) where
  of_tail named := named
  append := Script.Named.append
  tail_append := Script.Named.append
  empty := List.forall_mem_nil _
  failure _ := List.forall_mem_nil _
  syntax_text _ := Script.named_of_text
  behind _ inner := Script.named_of_text.append inner
  enclosed _ inner := (Script.named_of_text.append inner).append Script.named_of_text
  integer _ := Script.named_of_text
  ident {name} _ := by
    rw [Script.ident]
    cases Ident.write d name <;> exact List.forall_mem_nil _
  value v := List.forall_mem_singleton.mpr fun _ none => nomatch none
  shared {name v} same := List.forall_mem_singleton.mpr fun other found => by
    rw [← Option.some.inj found]
    exact same
  template _ each := Script.named_template _ _ each
  keyword _ := Script.named_of_text

namespace Query

theorem fault_agrees (q : Query) : (q.script .postgres).fault = (q.script .sqlite).fault := by
  have always : NodeProperty.Always (.portableIf False) :=
    { cte := fun _ impossible => impossible.elim
      select := fun _ impossible => impossible.elim }
  exact ((sqlite_agrees False).scripts q (always.each_query q)).fault

theorem Portable.script {q : Query} (portable : q.Portable) :
    q.script .postgres = q.script .sqlite :=
  ((sqlite_agrees True).scripts q portable).same trivial

theorem ancestors_portable : ancestors.Portable := by
  simp [ancestors, Portable, Query.Each, Query.EachOption, Select.Each, Cte.EachOf, Cte.Each,
    CteBody.Each, RecursiveStep.EachOption, Source.EachOption, Source.Each, Join.EachOf, Join.Each,
    Predicate.EachOf, Predicate.Each, Field.EachOf, Field.Each, Expr.Each, Field.qualified,
    Field.bare, Field.ofExpr, Field.value, Field.shared, Field.ordered, NodeProperty.portableIf]

theorem ancestors_named : ancestors.Each (TextRule.named fun _ => .int 7).everywhere := by
  simp [ancestors, Query.Each, Query.EachOption, Select.Each, Cte.EachOf, Cte.Each, CteBody.Each,
    RecursiveStep.EachOption, Source.EachOption, Source.Each, Join.EachOf, Join.Each,
    Predicate.EachOf, Predicate.Each, Field.EachOf, Field.Each, Expr.Each, Field.qualified,
    Field.bare, Field.ofExpr, Field.value, Field.shared, Field.ordered, TextRule.everywhere,
    TextRule.named, TextRule.table, TextRule.optional, TextRule.expr, TextRule.source,
    TextRule.joinKind]

/-- A statement fails in both dialects with the same error or in none. If it is portable and its
placeholders can be told from its text, question marks instead of its numbers make one text of the
other; and if every name stands for one value, the arguments of the one are those of the other by
number. -/
theorem sqlite_agrees_with_postgres (q : Query) :
    (∀ e, q.build .sqlite = .error e ↔ q.build .postgres = .error e) ∧
    ((∃ s, q.build .sqlite = .ok s) ↔ ∃ p, q.build .postgres = .ok p) ∧
    ∀ s p : Built, q.build .sqlite = .ok s → q.build .postgres = .ok p →
      q.Portable → q.Legible →
      s.sql = String.ofList (Text.questioned false p.sql.toList) ∧
      ∀ valueOf : String → Value, q.Each (TextRule.named valueOf).everywhere →
        s.args.map some = (Text.numbersIn p.sql.toList).map fun n => p.args[n - 1]? := by
  refine ⟨?_, ?_, ?_⟩
  · intro e
    rw [build_eq_error, build_eq_error, fault_agrees]
  · simp [build_eq_ok, fault_agrees]
  · intro s p sqlite postgres portable legible
    constructor
    · have anonymized := Mark.questioned_sql _
        (legible.marks_unsigned (Renderer.new .postgres) .postgres)
        (legible.marks_unextended (Renderer.new .postgres) .postgres)
      rw [← (built_eq postgres).1, Renderer.marks_anonymized _ (Renderer.new .sqlite) _ rfl,
        portable.script, ← (built_eq sqlite).1] at anonymized
      rw [anonymized, String.ofList_toList]
    · intro valueOf named
      have fresh : (Renderer.new .postgres).Holds valueOf := fun _ _ found => nomatch found
      have found := Renderer.placed_args fresh rfl (q.script .postgres).pieces
        ((named_layout .postgres valueOf).query q named)
      rw [← (built_eq postgres).2] at found
      calc
        s.args.map some = (q.slots .postgres).map fun slot => some slot.2 := by
          rw [(built_eq sqlite).2, Renderer.positional_args _ rfl, ← portable.script]
          simp [Renderer.new, slots]
        _ = ((Renderer.new .postgres).placed (q.script .postgres).pieces).map
            fun entry => some entry.1.2 := by
          rw [slots, ← Renderer.placed_slots (.new .postgres), List.map_map]
          rfl
        _ = ((Renderer.new .postgres).placed (q.script .postgres).pieces).map
            fun entry => p.args[entry.2 - 1]? :=
          List.map_congr_left fun entry member => (found entry member).symm
        _ = (Text.numbersIn p.sql.toList).map fun n => p.args[n - 1]? := by
          rw [numbersIn_sql legible rfl postgres, List.map_map]
          rfl

theorem ancestors_agrees :
    ∃ s p, ancestors.build .sqlite = .ok s ∧ ancestors.build .postgres = .ok p ∧
      s.sql = String.ofList (Text.questioned false p.sql.toList) ∧
      s.args = [.int 7, .null, .int 7, .int 7, .int 1, .text "it's"] ∧
      s.args.map some = (Text.numbersIn p.sql.toList).map fun n => p.args[n - 1]? := by
  obtain ⟨s, p, sqlite, postgres, bound⟩ : ∃ s p, ancestors.build .sqlite = .ok s ∧
      ancestors.build .postgres = .ok p ∧
      s.args = [.int 7, .null, .int 7, .int 7, .int 1, .text "it's"] := by
    rw [build_eq_script, build_eq_script]
    exact ⟨_, _, rfl, rfl, rfl⟩
  obtain ⟨text, args⟩ := (sqlite_agrees_with_postgres ancestors).2.2 s p sqlite postgres
    ancestors_portable ancestors_legible
  exact ⟨s, p, sqlite, postgres, text, bound, args _ ancestors_named⟩

end Query

end SqlTree
