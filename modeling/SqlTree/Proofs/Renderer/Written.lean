import SqlTree.Proofs.Renderer.Marks

namespace SqlTree

namespace Script

theorem append_isOk {a b : Script} (ok : (a ++ b).fault = none) :
    a.fault = none ∧ b.fault = none := by
  rwa [fault_append, Option.or_eq_none_iff] at ok

theorem pieces_append_of_ok {a : Script} (ok : a.fault = none) (b : Script) :
    (a ++ b).pieces = a.pieces ++ b.pieces := by
  rw [pieces_append, isOk, ok]
  rfl

theorem separated_cons_cons (separator : String) (first second : Script) (rest : List Script) :
    separated separator (first :: second :: rest) =
      first ++ text separator ++ separated separator (second :: rest) := rfl

theorem separated_isOk {separator : String} {list : List Script}
    (ok : (separated separator list).fault = none) : ∀ s ∈ list, s.fault = none := by
  induction list with
  | nil => exact List.forall_mem_nil _
  | cons first rest ih =>
      cases rest with
      | nil => exact List.forall_mem_singleton.mpr ok
      | cons second rest =>
          obtain ⟨own, others⟩ := append_isOk ok
          exact List.forall_mem_cons.mpr ⟨(append_isOk own).1, ih others⟩

theorem separated_fault {separator : String} {list : List Script}
    (each : ∀ s ∈ list, s.fault = none) : (separated separator list).fault = none := by
  induction list with
  | nil => rfl
  | cons first rest ih =>
      obtain ⟨own, others⟩ := List.forall_mem_cons.mp each
      cases rest with
      | nil => exact own
      | cons second rest =>
          rw [separated_cons_cons, fault_append, fault_append, own, ih others]
          rfl

theorem fault_of_parens_if {s : Script} {bare : Bool}
    (ok : (if bare then s else text "(" ++ s ++ text ")").fault = none) : s.fault = none := by
  cases bare with
  | true => exact ok
  | false => exact (append_isOk (append_isOk ok).1).2

theorem mem_left {p : Piece} {a : Script} (member : p ∈ a.pieces) (b : Script) :
    p ∈ (a ++ b).pieces := by
  rw [pieces_append]
  split
  · exact List.mem_append_left _ member
  · exact member

theorem mem_behind {a : Script} {k : String} (ok : a.fault = none) :
    .text k ∈ (a ++ text k).pieces := by
  rw [pieces_append_of_ok ok]
  exact List.mem_append_right _ (List.mem_singleton_self _)

end Script

namespace Renderer

/-- What is left of a renderer that forgets its text: all that its placeholders depend on. -/
def untexted (r : Renderer) : Renderer := { r with sql := "" }

@[simp] theorem untexted_push (r : Renderer) (text : String) :
    (r.push text).untexted = r.untexted := rfl

theorem mark_untexted (r : Renderer) (p : Piece) : r.untexted.mark p = r.mark p := by
  cases p <;> rfl

theorem put_untexted (r : Renderer) (p : Piece) :
    (r.untexted.put p).untexted = (r.put p).untexted := by
  rw [put_eq, put_eq]
  cases p <;> rfl

theorem marks_untexted {a b : Renderer} (alike : a.untexted = b.untexted) (pieces : List Piece) :
    a.marks pieces = b.marks pieces := by
  induction pieces generalizing a b with
  | nil => rfl
  | cons p rest ih =>
      have first : a.mark p = b.mark p := by
        rw [← mark_untexted a, ← mark_untexted b, alike]
      have next : (a.put p).untexted = (b.put p).untexted := by
        rw [← put_untexted a, ← put_untexted b, alike]
      rw [marks, marks, first, ih next]

theorem write_untexted {a b : Renderer} (alike : a.untexted = b.untexted) (s : Script) :
    (a.write s).untexted = (b.write s).untexted := by
  rcases s with ⟨pieces, fault⟩
  simp only [write]
  induction pieces generalizing a b with
  | nil => exact alike
  | cons p rest ih =>
      have next : (a.put p).untexted = (b.put p).untexted := by
        rw [← put_untexted a, ← put_untexted b, alike]
      exact ih next

def written (r : Renderer) (s : Script) : List Char := (Mark.sql (r.marks s.pieces)).toList

def writtenEach (r : Renderer) : List Script → List (List Char)
  | [] => []
  | s :: rest => r.written s :: (r.write s).writtenEach rest

def writeEach (r : Renderer) (list : List Script) : Renderer := list.foldl write r

theorem write_dialect (r : Renderer) (s : Script) : (r.write s).dialect = r.dialect := by
  rw [write, writePieces]
  induction s.pieces generalizing r with
  | nil => rfl
  | cons p rest ih => rw [List.foldl_cons, ih, put_dialect]

theorem write_sql (r : Renderer) (s : Script) :
    (r.write s).sql.toList = r.sql.toList ++ r.written s := by
  rw [write, writePieces_sql, String.toList_append, written]

@[simp] theorem written_text (r : Renderer) (k : String) : r.written (.text k) = k.toList := by
  simp [written, Script.text, Script.ofPiece, marks, mark, Mark.sql, Mark.written]

@[simp] theorem written_empty (r : Renderer) : r.written .empty = [] := rfl

@[simp] theorem write_text (r : Renderer) (k : String) : r.write (.text k) = r.push k := rfl

theorem written_congr {a b : Renderer} (alike : a.untexted = b.untexted) (s : Script) :
    a.written s = b.written s := by
  rw [written, written, marks_untexted alike]

theorem writtenEach_congr {a b : Renderer} (alike : a.untexted = b.untexted)
    (list : List Script) : a.writtenEach list = b.writtenEach list := by
  induction list generalizing a b with
  | nil => rfl
  | cons s rest ih =>
      rw [writtenEach, writtenEach, written_congr alike, ih (write_untexted alike s)]

@[simp] theorem length_writtenEach (r : Renderer) (list : List Script) :
    (r.writtenEach list).length = list.length := by
  induction list generalizing r with
  | nil => rfl
  | cons s rest ih => simp [writtenEach, ih]

theorem writeEach_untexted {a b : Renderer} (alike : a.untexted = b.untexted)
    (list : List Script) : (a.writeEach list).untexted = (b.writeEach list).untexted := by
  induction list generalizing a b with
  | nil => exact alike
  | cons s rest ih => exact ih (write_untexted alike s)

theorem writeEach_sql (r : Renderer) (list : List Script) :
    (r.writeEach list).sql.toList = r.sql.toList ++ (r.writtenEach list).flatten := by
  induction list generalizing r with
  | nil => simp [writeEach, writtenEach]
  | cons s rest ih =>
      have others := ih (r.write s)
      rw [write_sql, List.append_assoc] at others
      exact others

theorem write_append (r : Renderer) {a : Script} (ok : a.fault = none) (b : Script) :
    r.write (a ++ b) = (r.write a).write b := by
  rw [write, Script.pieces_append_of_ok ok, writePieces_append]
  rfl

theorem written_append (r : Renderer) {a : Script} (ok : a.fault = none) (b : Script) :
    r.written (a ++ b) = r.written a ++ (r.write a).written b := by
  have whole := write_sql r (a ++ b)
  rw [write_append r ok, write_sql, write_sql, List.append_assoc] at whole
  exact (List.append_cancel_left whole).symm

theorem written_text_append (r : Renderer) (k : String) (s : Script) :
    r.written (.text k ++ s) = k.toList ++ r.written s := by
  rw [written_append r rfl, written_text, write_text, written_congr (untexted_push r k)]

theorem written_append_text (r : Renderer) {s : Script} (ok : s.fault = none) (k : String) :
    r.written (s ++ .text k) = r.written s ++ k.toList := by
  rw [written_append r ok, written_text]

theorem sql_of_parts (r : Renderer) {a b c d : Script} (ok : (a ++ b ++ c ++ d).fault = none) :
    a.fault = none ∧ b.fault = none ∧ c.fault = none ∧ ∃ behind : Renderer,
      (r.write (a ++ b ++ c ++ d)).sql.toList = (r.write a).sql.toList ++ (r.write a).written b ++
        ((r.write a).write b).written c ++ behind.written d := by
  have three := (Script.append_isOk ok).1
  obtain ⟨two, third⟩ := Script.append_isOk three
  obtain ⟨first, second⟩ := Script.append_isOk two
  refine ⟨first, second, third, r.write (a ++ b ++ c), ?_⟩
  rw [write_append r three, write_sql, write_append r two, write_sql, write_append r first,
    write_sql]

theorem write_separated (r : Renderer) (separator : String) {list : List Script}
    (ok : ∀ s ∈ list, s.fault = none) :
    (r.write (.separated separator list)).untexted = (r.writeEach list).untexted := by
  induction list generalizing r with
  | nil => rfl
  | cons first rest ih =>
      obtain ⟨own, others⟩ := List.forall_mem_cons.mp ok
      cases rest with
      | nil => rfl
      | cons second rest =>
          have apart : (first ++ .text separator).fault = none := by
            rw [Script.fault_append, own]
            rfl
          rw [Script.separated_cons_cons, write_append r apart, write_append r own, ih _ others,
            write_text]
          exact writeEach_untexted (untexted_push _ separator) (second :: rest)

theorem written_separated (r : Renderer) (separator : String) {list : List Script}
    (ok : ∀ s ∈ list, s.fault = none) :
    r.written (.separated separator list) =
      separator.toList.intercalate (r.writtenEach list) := by
  induction list generalizing r with
  | nil => rfl
  | cons first rest ih =>
      obtain ⟨own, others⟩ := List.forall_mem_cons.mp ok
      cases rest with
      | nil => simp [Script.separated, writtenEach]
      | cons second rest =>
          have apart : (first ++ .text separator).fault = none := by
            rw [Script.fault_append, own]
            rfl
          have later : ((r.write first).push separator).writtenEach (second :: rest) =
              (r.write first).writtenEach (second :: rest) :=
            writtenEach_congr (untexted_push _ separator) _
          rw [Script.separated_cons_cons, written_append r apart, written_append r own,
            write_append r own, write_text, written_text, ih _ others, later]
          simp [writtenEach]

theorem mem_written {s : Script} {k : String} (piece : .text k ∈ s.pieces) {c : Char}
    (member : c ∈ k.toList) (r : Renderer) : c ∈ r.written s := by
  rcases s with ⟨pieces, fault⟩
  simp only [written] at piece ⊢
  induction pieces generalizing r with
  | nil => exact nomatch piece
  | cons p rest ih =>
      rw [marks, Mark.sql, String.toList_append]
      rcases List.mem_cons.mp piece with rfl | later
      · exact List.mem_append_left _ member
      · exact List.mem_append_right _ (ih (r.put p) later)

end Renderer

end SqlTree
