import SqlTree.Proofs.Renderer.Numbering
import SqlTree.Proofs.Tree.Legible
import SqlTree.Proofs.Tree.Rendering

namespace SqlTree.Query

def slots (d : Dialect) (q : Query) : List Slot := Piece.slots (q.script d).pieces

theorem built_eq {d : Dialect} {q : Query} {b : Built} (built : q.build d = .ok b) :
    b.sql = Mark.sql ((Renderer.new d).marks (q.script d).pieces) ∧
      b.args = ((Renderer.new d).writePieces (q.script d).pieces).args := by
  obtain ⟨_, rfl⟩ := build_eq_ok.mp built
  refine ⟨?_, rfl⟩
  rw [Renderer.finish, Renderer.write, Renderer.writePieces_sql]
  exact String.empty_append

/-- The numbers read from the text are those at which the placeholders are placed. -/
theorem numbersIn_sql {q : Query} {d : Dialect} {b : Built} (legible : q.Legible)
    (numbered : d.numbered = true) (built : q.build d = .ok b) :
    Text.numbersIn b.sql.toList =
      ((Renderer.new d).placed (q.script d).pieces).map Prod.snd := by
  rw [(built_eq built).1, Mark.numbersIn_sql _ (legible.marks_unsigned (Renderer.new d) d)
    (legible.marks_unextended (Renderer.new d) d), Renderer.placed_numbers numbered]

/-- The question marks of a positional statement count its arguments. The numbers of a numbered one
count its arguments by their first occurrences, and two placeholders have one number exactly if they
share a name. -/
theorem placeholders_match_arguments (q : Query) (d : Dialect) (b : Built)
    (legible : q.Legible) (built : q.build d = .ok b) :
    (d ≠ .postgres → b.sql.toList.count '?' = b.args.length) ∧
    (d = .postgres →
      (∀ n ∈ Text.numbersIn b.sql.toList, 1 ≤ n ∧ n ≤ b.args.length) ∧
      (Text.numbersIn b.sql.toList).eraseDups = List.range' 1 b.args.length ∧
      (Text.numbersIn b.sql.toList).length = (q.slots d).length ∧
      ((q.slots d).zip (Text.numbersIn b.sql.toList)).Pairwise
        fun x y => x.2 = y.2 ↔ x.1.shares y.1) := by
  obtain ⟨sql, args⟩ := built_eq built
  constructor
  · intro positional
    have unnumbered : (Renderer.new d).dialect.numbered = false := by
      cases d with
      | postgres => exact absurd rfl positional
      | sqlite => rfl
      | mysql => rfl
    calc
      b.sql.toList.count '?' =
          ((Renderer.new d).marks (q.script d).pieces).count .anonymous := by
        rw [sql, Mark.count_question_sql _ (legible.marks_unsigned (Renderer.new d) d)]
      _ = (q.slots d).length := Renderer.count_anonymous _ unnumbered _
      _ = b.args.length := by
        rw [args, Renderer.positional_args _ unnumbered]
        simp [Renderer.new, slots]
  · intro numbered
    have numbers : d.numbered = true := Dialect.numbered_eq_true.mpr numbered
    have read := numbersIn_sql legible numbers built
    have first : (Text.numbersIn b.sql.toList).eraseDups = List.range' 1 b.args.length := by
      rw [read, Renderer.placed_numbers numbers, args]
      exact Renderer.new_first_occurrences numbers _
    have placed := (Renderer.new d).placed_slots (q.script d).pieces
    refine ⟨?_, first, ?_, ?_⟩
    · intro n member
      rw [← List.mem_eraseDups, first, List.mem_range'_1] at member
      omega
    · rw [read, slots, ← placed, List.length_map, List.length_map]
    · rw [read, slots, ← placed, List.zip_map', List.map_id'' (fun _ => rfl)]
      exact Renderer.placed_pairwise (Renderer.consistent_new d) numbers _

theorem ancestors_placeholders :
    (∃ b, ancestors.build .postgres = .ok b ∧
      b.args = [.int 7, .null, .int 1, .text "it's"] ∧
      (Text.numbersIn b.sql.toList).eraseDups = [1, 2, 3, 4]) ∧
    ∃ b, ancestors.build .sqlite = .ok b ∧ b.sql.toList.count '?' = 6 := by
  obtain ⟨b, postgres, args⟩ : ∃ b, ancestors.build .postgres = .ok b ∧
      b.args = [.int 7, .null, .int 1, .text "it's"] := by
    rw [build_eq_script]
    exact ⟨_, rfl, rfl⟩
  obtain ⟨c, sqlite, count⟩ : ∃ c, ancestors.build .sqlite = .ok c ∧ c.args.length = 6 := by
    rw [build_eq_script]
    exact ⟨_, rfl, rfl⟩
  obtain ⟨-, first, -⟩ :=
    (placeholders_match_arguments ancestors .postgres b ancestors_legible postgres).2 rfl
  have marks := (placeholders_match_arguments ancestors .sqlite c ancestors_legible sqlite).1
    (by decide)
  rw [args] at first
  exact ⟨⟨b, postgres, args, first⟩, ⟨c, sqlite, marks.trans count⟩⟩

end SqlTree.Query
