import SqlTree.Proofs.Renderer.Splicing
import SqlTree.Proofs.Row.Registration
import SqlTree.Proofs.Tree.Numeric

/-!
Fields with the same expression are written alike. Whatever was written before them, they fail with
the same error or add the same text, and they bind values that are equal one by one, though zeros
may differ in their sign. So a row that is read by fields never gives one of them the value of a
column that is written in another way.
-/

namespace SqlTree

theorem Value.settles (v : Value) :
    Settles Value.equal (fun w => w.holdsNaN = false) Value.settled v := v.equal_iff

namespace Renderer

theorem bound_subset (r : Renderer) (p : Piece) :
    ∀ v ∈ r.bound p, v ∈ (Piece.slots [p]).map Prod.snd := by
  cases p with
  | text s => exact List.forall_mem_nil _
  | value v => simp [bound]
  | shared name v =>
      intro w member
      rw [bound] at member
      split at member
      · exact absurd member List.not_mem_nil
      · exact member

theorem args_added (r : Renderer) (pieces : List Piece) :
    ∃ added, (r.writePieces pieces).args = r.args ++ added ∧
      ∀ v ∈ added, v ∈ (Piece.slots pieces).map Prod.snd := by
  induction pieces generalizing r with
  | nil => exact ⟨[], (List.append_nil _).symm, List.forall_mem_nil _⟩
  | cons p rest ih =>
      obtain ⟨added, args, among⟩ := ih (r.put p)
      refine ⟨r.bound p ++ added, ?_, fun v member => ?_⟩
      · rw [writePieces_cons, args, put_args, List.append_assoc]
      · have slots : Piece.slots (p :: rest) = Piece.slots [p] ++ Piece.slots rest :=
          List.filterMap_append (l := [p])
        rw [slots, List.map_append, List.mem_append]
        rcases List.mem_append.mp member with own | other
        · exact .inl (r.bound_subset p v own)
        · exact .inr (among v other)

section Settled

variable (r : Renderer) {s t : Script}
  (same : s.mapValues Value.settled = t.mapValues Value.settled)

include same

theorem write_settled :
    (r.write s).mapValues Value.settled = (r.write t).mapValues Value.settled := by
  have pieces : s.pieces.map (Piece.mapValue Value.settled) =
      t.pieces.map (Piece.mapValue Value.settled) := (congrArg Script.pieces same :)
  rw [write, write, ← writePieces_mapValues, ← writePieces_mapValues, pieces]

theorem args_settled (left : ∀ v ∈ s.values, v.holdsNaN = false)
    (right : ∀ v ∈ t.values, v.holdsNaN = false) :
    ∃ added others, (r.write s).args = r.args ++ added ∧ (r.write t).args = r.args ++ others ∧
      added.isEqv others Value.equal = true := by
  obtain ⟨added, args, own⟩ := r.args_added s.pieces
  obtain ⟨others, args', own'⟩ := r.args_added t.pieces
  have all : (r.write s).args.map Value.settled = (r.write t).args.map Value.settled :=
    (congrArg Renderer.args (r.write_settled same) :)
  rw [write, write, args, args', List.map_append, List.map_append] at all
  have bound : added.map Value.settled = others.map Value.settled := List.append_cancel_left all
  have equal := Settles.list (fun v (_ : v ∈ added) => v.settles) others
  exact ⟨added, others, args, args', equal.mpr
    ⟨fun v member => left v (own v member), fun v member => right v (own' v member), bound⟩⟩

end Settled

/-- Two fragments do the same to a renderer, but for the signs of the zeros that they bind. -/
structure AppendsAlike (r : Renderer) (t u : Fragment) : Prop where
  fault : (r.append t).2 = (r.append u).2
  sql : (r.append t).1.sql = (r.append u).1.sql
  numbers : (r.append t).1.numbers = (r.append u).1.numbers
  args : ∃ added others, (r.append t).1.args = r.args ++ added ∧
    (r.append u).1.args = r.args ++ others ∧ added.isEqv others Value.equal = true

end Renderer

theorem Field.appends_alike {f g : Field} (same : f.sameExpr g = true) (r : Renderer)
    (bare : List String) : r.AppendsAlike (.field f bare) (.field g bare) := by
  obtain ⟨left, right, settled⟩ := (Field.sameExpr_iff f g).mp same
  have scripts : (f.script r.dialect bare).mapValues Value.settled =
      (g.script r.dialect bare).mapValues Value.settled := by
    rw [← Field.script_mapValues, ← Field.script_mapValues, Field.script_eq, Field.script_eq,
      Field.expr_mapValues, Field.expr_mapValues, settled]
  have written := r.write_settled scripts
  constructor <;> rw [r.append_field f, r.append_field g]
  case fault => exact (congrArg Script.fault scripts :)
  case sql => exact (congrArg Renderer.sql written :)
  case numbers => exact (congrArg Renderer.numbers written :)
  case args =>
    exact r.args_settled scripts (Field.values_of_numeric left r.dialect bare)
      (Field.values_of_numeric right r.dialect bare)

/-! ### Rows -/

theorem Cursor.sameExpr_of_position? {columns : List Field} {next : Nat} {f : Field} {index : Nat}
    (found : position? columns next f = some index) :
    ∃ column, columns[index]? = some column ∧ column.sameExpr f = true := by
  unfold position? at found
  split at found
  case isTrue expected =>
    obtain rfl := Option.some.inj found
    exact (Option.any_eq_true _ _).mp expected
  case isFalse =>
    obtain ⟨bound, same, -⟩ := List.findIdx?_eq_some_iff_getElem.mp found
    exact ⟨columns[index], List.getElem?_eq_getElem bound, same⟩

/-- A read found nothing, or the value in a column that is written as its field is, in every dialect
and behind whatever was written before. -/
def Outcome.FoundAlike (columns : List Field) (record : Record) (o : Outcome) : Prop :=
  (∃ e, o.result = .error e ∧ e.FindsNothing) ∨
    ∃ (index : Nat) (column : Field) (v : Value), columns[index]? = some column ∧
      record[index]? = some v ∧ o.result = o.read.ofValue v ∧
      ∀ (r : Renderer) (bare : List String),
        r.AppendsAlike (.field column bare) (.field o.read.field bare)

section Rows

variable {columns : List Field} {record : Record}

theorem Read.found_alike (r : Read) (c : Cursor) (mode : c.mode = .reading columns record) :
    (r.reader.run c).2.mode = .reading columns record ∧
      Outcome.FoundAlike columns record ⟨r, (r.reader.run c).1⟩ := by
  cases position : Cursor.position? columns c.next r.field with
  | none =>
      have got : (Cursor.get r.decoder r.field).run c =
          (.error (.decode r.field.label .unprojected), c) := by
        simp only [Cursor.get, ExceptT.run, mode, position]
      rw [r.reader_run c got]
      exact ⟨mode, .inl ⟨_, rfl, .column r.field.label⟩⟩
  | some index =>
      cases value : record[index]? with
      | none =>
          have got : (Cursor.get r.decoder r.field).run c =
              (.error (.decode r.field.label (.rowEnds record.length (index + 1))),
              { c with next := index + 1 }) := by
            simp only [Cursor.get, ExceptT.run, mode, position, value]
          rw [r.reader_run c got]
          exact ⟨mode, .inl ⟨_, rfl, .value r.field.label record.length (index + 1)⟩⟩
      | some v =>
          obtain ⟨column, here, same⟩ := Cursor.sameExpr_of_position? position
          rw [r.reader_reading c mode position value]
          exact ⟨mode, .inr ⟨index, column, v, here, value, rfl, Field.appends_alike same⟩⟩

theorem Reading.found_alike {α : Type} (m : Reading α) {c : Cursor}
    (mode : c.mode = .reading columns record) :
    ∀ o ∈ m.outcomes c, o.FoundAlike columns record := by
  induction m generalizing c with
  | done result => exact List.forall_mem_nil _
  | look next ih => exact ih c.count c.isRegistering mode
  | read r next ih =>
      obtain ⟨stays, found⟩ := r.found_alike c mode
      rw [outcomes_read]
      exact List.forall_mem_cons.mpr ⟨found, ih _ stays⟩

end Rows

/-- Fields with the same expression do the same to every renderer, in every dialect and whichever
qualifiers are left out: they fail with the same error or write the same text, number shared
arguments alike, and add arguments that are equal one by one. So a read of a row either finds
nothing or gets the value of a column that is written as the field it asks for. -/
theorem Field.same_expressions_written_alike :
    (∀ f g : Field, f.sameExpr g = true → ∀ (r : Renderer) (bare : List String),
      r.AppendsAlike (.field f bare) (.field g bare)) ∧
    ∀ {α : Type} (m : Reading α) (columns : List Field) (record : Record),
      ∀ o ∈ m.outcomes (.read columns record), o.FoundAlike columns record :=
  ⟨fun _ _ same => Field.appends_alike same, fun m _ _ => m.found_alike rfl⟩

def Field.scoreOr (x : Double) : Field :=
  .template "COALESCE(?, ?)" [.qualified "t" "score", .shared "none" (.float x)]

/-- The zeros differ in their sign, and one of the fields has an alias. -/
theorem Field.same_expressions_written_alike_zeros :
    let f := (scoreOr Double.zero.negate).aliased "best"
    let g := scoreOr Double.zero
    let r := (Renderer.new .postgres).bind (.int 1)
    let m : Reading Double := .read (.column .float g) .done
    f.sameExpr g = true ∧ r.AppendsAlike (.field f ["t"]) (.field g ["t"]) ∧
      (r.append (.field f ["t"])).1.sql = "$1COALESCE(score, $2)" ∧
      (r.append (.field f ["t"])).1.args = [.int 1, .float Double.zero.negate] ∧
      (r.append (.field g ["t"])).1.args = [.int 1, .float Double.zero] ∧
      (m.run.run (.read [f] [.int 3])).1 = .ok (Double.ofInt 3) ∧
      ∀ o ∈ m.outcomes (.read [f] [.int 3]), o.FoundAlike [f] [.int 3] := by
  intro f g r m
  have same : f.sameExpr g = true := by decide +kernel
  obtain ⟨alike, found⟩ := Field.same_expressions_written_alike
  rw [r.append_field f, r.append_field g]
  refine ⟨same, alike f g same r ["t"], by decide +kernel, rfl, rfl, by decide +kernel,
    found m [f] [.int 3]⟩

end SqlTree
