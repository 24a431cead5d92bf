import SqlTree.Proofs.Renderer.Marks
import SqlTree.Proofs.Run.Executing
import SqlTree.Proofs.Tree.Rendering

/-!
Splicing: what a node writes does not depend on what was written before it, but for the numbers of
its placeholders, which move up by the number of arguments already there.
-/

namespace SqlTree

namespace Fragment

def names (d : Dialect) (t : Fragment) : List String :=
  (Piece.slots (t.script d).pieces).filterMap Prod.fst

end Fragment

namespace Mark

@[simp] theorem shift_zero (m : Mark) : m.shift 0 = m := by
  cases m <;> simp [shift]

theorem map_shift_zero (marks : List Mark) : marks.map (shift 0) = marks := by
  induction marks with
  | nil => rfl
  | cons m rest ih => rw [List.map_cons, shift_zero, ih]

theorem map_shift_of_anonymous (k : Nat) (marks : List Mark)
    (anonymous : ∀ m ∈ marks, m.number? = none) : marks.map (shift k) = marks := by
  induction marks with
  | nil => rfl
  | cons m rest ih =>
      have first := anonymous m List.mem_cons_self
      rw [List.map_cons, ih fun x member => anonymous x (List.mem_cons_of_mem m member)]
      cases m with
      | text s => rfl
      | anonymous => rfl
      | numbered n => simp [number?] at first

end Mark

namespace Renderer

theorem lookup_moved (k : Nat) (numbers : List (String × Nat)) (name : String) :
    (numbers.map fun entry => (entry.1, k + entry.2)).lookup name =
      (numbers.lookup name).map (k + ·) := by
  induction numbers with
  | nil => rfl
  | cons entry rest ih =>
      rcases entry with ⟨known, n⟩
      simp only [List.map_cons, List.lookup_cons]
      split
      · rfl
      · exact ih

/-- `r` is where `own`, a renderer of its own, stands if it starts behind `base`. -/
structure Behind (base own r : Renderer) : Prop where
  dialect : r.dialect = own.dialect
  args : r.args = base.args ++ own.args
  numbers : r.numbers = base.numbers ++
    own.numbers.map fun entry => (entry.1, base.args.length + entry.2)

namespace Behind

variable {base own r : Renderer}

theorem start (base : Renderer) : Behind base (Renderer.new base.dialect) base :=
  ⟨rfl, (List.append_nil _).symm, (List.append_nil _).symm⟩

theorem lookup (behind : Behind base own r) {name : String}
    (fresh : base.numbers.lookup name = none) :
    r.numbers.lookup name = (own.numbers.lookup name).map (base.args.length + ·) := by
  rw [behind.numbers, List.lookup_append, fresh, lookup_moved]
  rfl

theorem length_args (behind : Behind base own r) :
    r.args.length = base.args.length + own.args.length := by
  rw [behind.args, List.length_append]

theorem piece (behind : Behind base own r) (p : Piece)
    (fresh : r.dialect.numbered = true → ∀ name v, p = .shared name v →
      base.numbers.lookup name = none) :
    r.mark p = (own.mark p).shift base.args.length ∧ r.bound p = own.bound p ∧
      r.named p =
        (own.named p).map fun entry => (entry.1, base.args.length + entry.2) := by
  have size := behind.length_args
  cases p with
  | text s => exact ⟨rfl, rfl, rfl⟩
  | value v =>
      refine ⟨?_, rfl, rfl⟩
      simp only [mark, behind.dialect, size]
      split <;> simp [Mark.shift, Nat.add_assoc]
  | shared name v =>
      cases numbered : r.dialect.numbered with
      | false =>
          have same : own.dialect.numbered = false := by rw [← behind.dialect, numbered]
          simp [mark, bound, named, numbered, same, Mark.shift]
      | true =>
          have same : own.dialect.numbered = true := by rw [← behind.dialect, numbered]
          have known := behind.lookup (fresh numbered name v rfl)
          cases found : own.numbers.lookup name with
          | none =>
              rw [found] at known
              simp [mark, bound, named, numberOf, numbered, same, known, found, size, Mark.shift,
                Nat.add_assoc]
          | some n =>
              rw [found] at known
              simp [mark, bound, named, numberOf, numbered, same, known, found, Mark.shift]

theorem put (behind : Behind base own r) (p : Piece)
    (fresh : r.dialect.numbered = true → ∀ name v, p = .shared name v →
      base.numbers.lookup name = none) : Behind base (own.put p) (r.put p) := by
  obtain ⟨_, values, names⟩ := behind.piece p fresh
  refine ⟨?_, ?_, ?_⟩
  · rw [put_dialect, put_dialect, behind.dialect]
  · rw [put_args, put_args, behind.args, values, List.append_assoc]
  · rw [put_numbers, put_numbers, behind.numbers, names, List.map_append, List.append_assoc]

/-- A whole run: all marks move up by the arguments of `base`. -/
theorem writePieces (behind : Behind base own r) (pieces : List Piece)
    (fresh : r.dialect.numbered = true → ∀ slot ∈ Piece.slots pieces, ∀ name ∈ slot.1,
      base.numbers.lookup name = none) :
    r.marks pieces = (own.marks pieces).map (Mark.shift base.args.length) ∧
      Behind base (own.writePieces pieces) (r.writePieces pieces) := by
  induction pieces generalizing own r with
  | nil => exact ⟨rfl, behind⟩
  | cons p rest ih =>
      have unknown : r.dialect.numbered = true → ∀ name v, p = .shared name v →
          base.numbers.lookup name = none := by
        rintro numbered name v rfl
        exact fresh numbered (some name, v) (by simp) name rfl
      have first := (behind.piece p unknown).1
      obtain ⟨others, last⟩ := ih (behind.put p unknown) (by
        intro numbered slot member
        refine fresh (by simpa using numbered) slot ?_
        cases p <;> simp [member])
      exact ⟨by rw [marks, marks, List.map_cons, first, others], last⟩

end Behind

theorem positional_anonymous (r : Renderer) (positional : r.dialect.numbered = false)
    (pieces : List Piece) : ∀ m ∈ r.marks pieces, m.number? = none := by
  induction pieces generalizing r with
  | nil => exact List.forall_mem_nil _
  | cons p rest ih =>
      have others := ih (r.put p) (by rw [put_dialect, positional])
      refine List.forall_mem_cons.mpr ⟨?_, others⟩
      rw [r.positional_mark positional]
      cases p <;> rfl

theorem writePieces_behind (r : Renderer) (pieces : List Piece)
    (fresh : r.dialect.numbered = true → ∀ slot ∈ Piece.slots pieces, ∀ name ∈ slot.1,
      r.numbers.lookup name = none) :
    (r.writePieces pieces).sql = r.sql ++
        Mark.sql (((Renderer.new r.dialect).marks pieces).map (Mark.shift r.args.length)) ∧
      (r.writePieces pieces).args =
        r.args ++ ((Renderer.new r.dialect).writePieces pieces).args := by
  obtain ⟨moved, aligned⟩ := (Behind.start r).writePieces pieces fresh
  exact ⟨by rw [writePieces_sql, moved], aligned.args⟩

theorem new_writePieces_sql (d : Dialect) (pieces : List Piece) :
    ((Renderer.new d).writePieces pieces).sql = Mark.sql ((Renderer.new d).marks pieces) := by
  rw [writePieces_sql]
  exact String.empty_append

theorem writePieces_pushed (d : Dialect) (before : String) (pieces : List Piece) :
    (((new d).push before).writePieces pieces).sql =
        before ++ ((new d).writePieces pieces).sql ∧
      (((new d).push before).writePieces pieces).args = ((new d).writePieces pieces).args := by
  obtain ⟨text, args⟩ := ((new d).push before).writePieces_behind pieces fun _ _ _ _ _ => rfl
  have start : ((new d).push before).sql = before := String.empty_append
  have unmoved : ((new d).marks pieces).map (Mark.shift 0) = (new d).marks pieces :=
    Mark.map_shift_zero _
  refine ⟨?_, by simpa [push, new] using args⟩
  rw [text, start, new_writePieces_sql]
  exact congrArg (before ++ Mark.sql ·) unmoved

end Renderer

theorem Script.build_between (d : Dialect) (before after : String) (s : Script) :
    (Script.text before ++ s ++ Script.text after).build d =
      (s.build d).map fun b => ⟨before ++ b.sql ++ after, b.args⟩ := by
  rcases s with ⟨pieces, _ | fault⟩
  · obtain ⟨text, args⟩ := Renderer.writePieces_pushed d before pieces
    have written : (Renderer.new d).writePieces ([.text before] ++ pieces ++ [.text after]) =
        (((Renderer.new d).push before).writePieces pieces).push after := by
      rw [Renderer.writePieces_append]
      rfl
    show Except.ok ((Renderer.new d).writePieces ([.text before] ++ pieces ++ [.text after])).finish
      = Except.ok (⟨before ++ ((Renderer.new d).writePieces pieces).sql ++ after,
          ((Renderer.new d).writePieces pieces).args⟩ : Built)
    rw [written, ← text, ← args]
    rfl
  · rfl

theorem Select.question_build_eq (d : Dialect) (s : Select) :
    (s.question.build d).mapError Fault.toError = ((Query.select s.asked).build d).map fun b =>
      ⟨"SELECT EXISTS (" ++ b.sql ++ ")", b.args⟩ := by
  rw [question_build, questionScript, Script.build_between, Query.build_eq_script, Query.script]
  cases (s.asked.script d).build d <;> rfl

namespace Issue

variable {ω : Type} {db : Database ω} {s : Select} {e : Error} {b : Built}

theorem hasRows_unwritten
    (unwritten : (s.question.build db.dialect).mapError Fault.toError = .error e)
    (session : Session ω) : hasRows db s session = (.error e, session) := by
  rw [hasRows, unwritten]
  rfl

theorem hasRows_eq (written : (s.question.build db.dialect).mapError Fault.toError = .ok b) :
    hasRows db s = (do
      let result ← query db s.id b
      pure (result.bind existsAnswer)) := by
  rw [hasRows, written]

theorem hasRows_written (written : (s.question.build db.dialect).mapError Fault.toError = .ok b)
    (session : Session ω) :
    let answer := db.query b (session.issuing db.dialect s.id b)
    hasRows db s session = ((answer.1.mapError (.execute s.id)).bind existsAnswer, answer.2) := by
  rw [hasRows_eq written]
  rfl

theorem hasRows_recorded (written : (s.question.build db.dialect).mapError Fault.toError = .ok b)
    (session : Session ω) :
    let answer := db.query b (session.issuing db.dialect s.id b)
    hasRows db.recorded s (session.recorded []) =
      ((answer.1.mapError (.execute s.id)).bind existsAnswer, answer.2.recorded [.query b]) := by
  have watched : (s.question.build db.recorded.dialect).mapError Fault.toError = .ok b := written
  rw [hasRows_eq watched]
  exact ((query_recorded db s.id b).followed fun result => .pure _) session []

end Issue

namespace Renderer

/-- A fragment fails on any renderer as on a fresh one. In a positional dialect its text and its
arguments follow those already there. In a numbered one, if none of its names has a number yet, its
numbers move up by the count of arguments already there. So a SELECT is spliced into the question
whether it has rows: that is the one call that the backend receives, with the arguments of the
SELECT, and nothing is sent if the SELECT cannot be written. -/
theorem append_splices :
    (∀ (r : Renderer) (t : Fragment),
      (r.append t).2 = ((new r.dialect).append t).2 ∧
      (r.dialect ≠ .postgres →
        (r.append t).1.sql = r.sql ++ ((new r.dialect).append t).1.sql ∧
        (r.append t).1.args = r.args ++ ((new r.dialect).append t).1.args) ∧
      (r.dialect = .postgres → (∀ name ∈ t.names r.dialect, r.numbers.lookup name = none) →
        ((new r.dialect).append t).1.sql =
          Mark.sql ((new r.dialect).marks (t.script r.dialect).pieces) ∧
        (r.append t).1.sql = r.sql ++ Mark.sql
          (((new r.dialect).marks (t.script r.dialect).pieces).map (Mark.shift r.args.length)) ∧
        (r.append t).1.args = r.args ++ ((new r.dialect).append t).1.args)) ∧
    ∀ {ω : Type} (db : Database ω) (s : Select) (session : Session ω),
      match (Query.select s.asked).build db.dialect with
      | .error e =>
          Issue.hasRows db s session = (.error e, session) ∧
          Issue.hasRows db.recorded s (session.recorded []) = (.error e, session.recorded [])
      | .ok b =>
          let question : Built := ⟨"SELECT EXISTS (" ++ b.sql ++ ")", b.args⟩
          let answer := db.query question (session.issuing db.dialect s.id question)
          let result := (answer.1.mapError (.execute s.id)).bind Issue.existsAnswer
          Issue.hasRows db s session = (result, answer.2) ∧
          Issue.hasRows db.recorded s (session.recorded []) =
            (result, answer.2.recorded [.query question]) := by
  constructor
  · intro r t
    have own : (new r.dialect).append t =
        ((new r.dialect).write (t.script r.dialect), (t.script r.dialect).fault) :=
      (new r.dialect).append_eq t
    rw [own, r.append_eq t]
    refine ⟨rfl, ?_, ?_⟩
    · intro positional
      have unnumbered : r.dialect.numbered = false := by
        cases dialect : r.dialect with
        | postgres => exact absurd dialect positional
        | sqlite => rfl
        | mysql => rfl
      obtain ⟨text, args⟩ := r.writePieces_behind (t.script r.dialect).pieces
        fun numbered => absurd numbered (by simp [unnumbered])
      have still := Mark.map_shift_of_anonymous r.args.length _
        ((new r.dialect).positional_anonymous unnumbered (t.script r.dialect).pieces)
      rw [still, ← new_writePieces_sql] at text
      exact ⟨text, args⟩
    · intro _ fresh
      obtain ⟨text, args⟩ := r.writePieces_behind (t.script r.dialect).pieces
        fun _ slot member name named => fresh name
          (List.mem_filterMap.mpr ⟨slot, member, named⟩)
      exact ⟨new_writePieces_sql _ _, text, args⟩
  · intro ω db s session
    have asked := s.question_build_eq db.dialect
    cases built : (Query.select s.asked).build db.dialect with
    | error e =>
        rw [built] at asked
        have watched : (s.question.build db.recorded.dialect).mapError Fault.toError = .error e :=
          asked
        exact ⟨Issue.hasRows_unwritten asked session, Issue.hasRows_unwritten watched _⟩
    | ok b =>
        rw [built] at asked
        exact ⟨Issue.hasRows_written asked session, Issue.hasRows_recorded asked session⟩

theorem append_splices_behind_two :
    let r := ((new .postgres).bind (.int 1)).bindShared "first" (.int 2)
    let t : Fragment := .predicate (.between (.bare "x") (.shared "second" (.int 3)) (.value .null)
      false) [] none
    (∀ name ∈ t.names .postgres, r.numbers.lookup name = none) ∧
      (r.append t).1.sql = r.sql ++ "x BETWEEN $3 AND $4" ∧
      (r.append t).1.args = [.int 1, .int 2, .int 3, .null] ∧
      (((new .sqlite).append t).1.append t).1.sql =
        "x BETWEEN ? AND ?" ++ "x BETWEEN ? AND ?" := by
  intro r t
  have fresh : ∀ name ∈ t.names .postgres, r.numbers.lookup name = none := by decide
  obtain ⟨_, sql, args⟩ := (append_splices.1 r t).2.2 rfl fresh
  refine ⟨fresh, sql.trans ?_, args, ?_⟩
  · decide
  · exact ((append_splices.1 ((new .sqlite).append t).1 t).2.1 (by decide)).1

end Renderer

end SqlTree
