import SqlTree.Proofs.Row.Registration

/-!
Reading by expression. Where no two columns of a projection show the same expression, a read gets
the value in the one column that shows its own, whatever was read before it and whatever came of
that. Where columns repeat an expression, reading them in the order of the projection still gets
each its own value.
-/

namespace SqlTree

def Field.valueIn (columns : List Field) (record : Record) (f : Field) : Option Value :=
  record[columns.findIdx (·.sameExpr f)]?

def Outcome.counts (columns : List Field) (record : Record) (o : Outcome) : Bool :=
  (o.read.field.valueIn columns record).any (!·.isNull)

structure Field.Projected (columns : List Field) (f : Field) : Prop where
  distinct : columns.Pairwise fun c d => c.sameExpr d = false
  shown : ∃ c ∈ columns, c.sameExpr f = true

namespace Field.Projected

variable {columns : List Field} {f : Field}

theorem covers (projected : f.Projected columns) : Covers columns [f] where
  distinct := projected.distinct
  present _ member _ := List.mem_singleton.mp member ▸ projected.shown

theorem numeric (projected : f.Projected columns) : f.expr.Each NodeProperty.numeric := by
  obtain ⟨c, -, same⟩ := projected.shown
  exact ((Field.sameExpr_iff c f).mp same).2.1

theorem countP_eq_one (projected : f.Projected columns) : columns.countP (·.sameExpr f) = 1 :=
  projected.covers.countP_eq_one List.mem_cons_self projected.numeric

theorem position?_valueIn (projected : f.Projected columns) {record : Record}
    (long : columns.length ≤ record.length) (next : Nat) :
    ∃ index v, Cursor.position? columns next f = some index ∧ record[index]? = some v ∧
      f.valueIn columns record = some v := by
  have position := projected.covers.position?_eq List.mem_cons_self projected.numeric next
  have bound : columns.findIdx (·.sameExpr f) < record.length :=
    Nat.lt_of_lt_of_le (List.findIdx_lt_length.mpr projected.shown) long
  have value := List.getElem?_eq_getElem bound
  exact ⟨_, _, position, value, value⟩

end Field.Projected

namespace Reading

variable {α : Type} {columns : List Field} {record : Record}

def counts : Reading α → Cursor → List Nat
  | done _, _ => []
  | read r next, c =>
      let (result, left) := r.reader.run c
      left.count :: (next result).counts left
  | look next, c => (next c.count c.isRegistering).counts c

theorem counts_read (r : Read) (next : Except Error r.Result → Reading α) (c : Cursor) :
    (read r next).counts c = (r.reader.run c).2.count ::
      (next (r.reader.run c).1).counts (r.reader.run c).2 := rfl

theorem outcomes_projected (long : columns.length ≤ record.length) (m : Reading α) {c : Cursor}
    (mode : c.mode = .reading columns record) (projected : ∀ f ∈ m.fields c, f.Projected columns) :
    (∀ o ∈ m.outcomes c, ∃ v, o.read.field.valueIn columns record = some v ∧
      o.result = o.read.ofValue v) ∧
    ∀ i n, (m.counts c)[i]? = some n →
      n = c.count + ((m.outcomes c).take (i + 1)).countP (Outcome.counts columns record) := by
  induction m generalizing c with
  | done result => exact ⟨List.forall_mem_nil _, fun i n found => nomatch found⟩
  | look next ih => exact ih c.count c.isRegistering mode projected
  | read r next ih =>
      rw [fields_read] at projected
      obtain ⟨first, others⟩ := List.forall_mem_cons.mp projected
      obtain ⟨index, v, position, value, own⟩ := first.position?_valueIn long c.next
      have run := r.reader_reading c mode position value
      rw [run] at others
      rw [outcomes_read, counts_read, run]
      obtain ⟨answers, later⟩ := @ih (r.ofValue v) (c.behind index v) mode others
      constructor
      · exact List.forall_mem_cons.mpr ⟨⟨v, own, rfl⟩, answers⟩
      · have moved : (c.behind index v).count =
            c.count + [(⟨r, r.ofValue v⟩ : Outcome)].countP (Outcome.counts columns record) := by
          simp only [Cursor.behind, List.countP_singleton, Outcome.counts, own, Option.any_some]
          cases v.isNull <;> rfl
        intro i n found
        cases i with
        | zero =>
            rw [← Option.some.inj found]
            exact moved
        | succ i =>
            rw [later i n found, moved, List.take_succ_cons, Nat.add_assoc, ← List.countP_append]
            rfl

/-- Reads in the order of the projection are answered column by column. -/
theorem outcomes_ordered (long : columns.length ≤ record.length) (m : Reading α) {c : Cursor}
    (mode : c.mode = .reading columns record)
    (ordered : ∀ i f, (m.fields c)[i]? = some f → columns[c.next + i]?.any (·.sameExpr f) = true) :
    ∀ i o, (m.outcomes c)[i]? = some o →
      ∃ v, record[c.next + i]? = some v ∧ o.result = o.read.ofValue v := by
  induction m generalizing c with
  | done result => exact fun i o found => nomatch found
  | look next ih => exact ih c.count c.isRegistering mode ordered
  | read r next ih =>
      rw [fields_read] at ordered
      have expected : columns[c.next]?.any (·.sameExpr r.field) = true := ordered 0 r.field rfl
      have position : Cursor.position? columns c.next r.field = some c.next := if_pos expected
      obtain ⟨column, here, -⟩ := (Option.any_eq_true _ _).mp expected
      have bound : c.next < record.length :=
        Nat.lt_of_lt_of_le (List.getElem?_eq_some_iff.mp here).1 long
      have value := List.getElem?_eq_getElem bound
      have run := r.reader_reading c mode position value
      rw [run] at ordered
      rw [outcomes_read, run]
      intro i o found
      cases i with
      | zero =>
          obtain rfl := Option.some.inj found
          exact ⟨_, value, rfl⟩
      | succ i =>
          rw [← Nat.add_assoc, Nat.add_right_comm]
          refine @ih (r.ofValue record[c.next]) (c.behind c.next record[c.next]) mode ?_ i o found
          intro j f read
          have later := ordered (j + 1) f read
          rw [← Nat.add_assoc, Nat.add_right_comm] at later
          exact later

/-- A row at least as long as its projection is read by mappers that may go on after an error. Where
the columns differ from one another, a read of a field that shows the expression of one, whatever
its alias and its place in an ordering, makes what it makes of the value in the one column that
shows it, and so the same whatever was read before; behind every read the count is the number of
reads so far whose value was not NULL. Where columns may repeat an expression, reads in the order of
the projection still get the values of the row in their order. -/
theorem reads_by_expression (m : Reading α) (columns : List Field) (record : Record)
    (long : columns.length ≤ record.length) :
    let start := Cursor.read columns record
    (columns.Pairwise (fun c d => c.sameExpr d = false) →
      (∀ f ∈ m.fields start, ∃ c ∈ columns, c.sameExpr f = true) →
      (∀ o ∈ m.outcomes start, columns.countP (·.sameExpr o.read.field) = 1 ∧
        ∃ v, o.read.field.valueIn columns record = some v ∧ o.result = o.read.ofValue v) ∧
      ∀ i n, (m.counts start)[i]? = some n →
        n = ((m.outcomes start).take (i + 1)).countP (Outcome.counts columns record)) ∧
    ((∀ (i : Nat) (f : Field), (m.fields start)[i]? = some f →
        columns[i]?.any (·.sameExpr f) = true) →
      ∀ (i : Nat) (o : Outcome), (m.outcomes start)[i]? = some o →
        ∃ v, record[i]? = some v ∧ o.result = o.read.ofValue v) := by
  intro start
  constructor
  · intro distinct shown
    have projected : ∀ f ∈ m.fields start, f.Projected columns := fun f read =>
      ⟨distinct, shown f read⟩
    obtain ⟨answers, counted⟩ := m.outcomes_projected long rfl projected
    constructor
    · intro o done
      have read : o.read.field ∈ m.fields start := List.mem_map_of_mem done
      exact ⟨(projected _ read).countP_eq_one, answers o done⟩
    · intro i n found
      rw [counted i n found]
      exact Nat.zero_add _
  · intro ordered
    have answers := @outcomes_ordered _ _ _ long m start rfl fun i f read => by
      rw [show start.next + i = i from Nat.zero_add i]
      exact ordered i f read
    intro i o found
    obtain ⟨v, value, result⟩ := answers i o found
    rw [show start.next + i = i from Nat.zero_add i] at value
    exact ⟨v, value, result⟩

/-- Reads a mail address, a name as a number, which it is not, then an id under another name. -/
def mailNameId : Reading Int64 :=
  .read (.column (.optional .string) (.bare "mail")) fun _ =>
    .read (.column .int64 .catName) fun _ =>
      .read (.column .int64 (Field.catId.aliased "key")) fun _ =>
        .read (.column .string .catName) fun _ => .read (.column .int64 .catId) .done

def idAndId : Reading Int64 :=
  .read (.column .int64 .catId) fun _ => .read (.column .int64 .catId) .done

theorem reads_by_expression_backwards :
    let columns : List Field := [.catId, .catName, .bare "mail"]
    let record : Record := [.int 7, .text "Tom", .null]
    columns.length ≤ record.length ∧ columns.Pairwise (fun c d => c.sameExpr d = false) ∧
      (∀ f ∈ mailNameId.fields (.read columns record), ∃ c ∈ columns, c.sameExpr f = true) ∧
      (∀ o ∈ mailNameId.outcomes (.read columns record),
        ∃ v, o.read.field.valueIn columns record = some v ∧ o.result = o.read.ofValue v) ∧
      (∀ i n, [0, 1, 2, 3, 4][i]? = some n → n =
        ((mailNameId.outcomes (.read columns record)).take (i + 1)).countP
          (Outcome.counts columns record)) ∧
      ∀ (i : Nat) (o : Outcome),
        (idAndId.outcomes (.read [.catId, .catId] [.int 7, .int 8]))[i]? = some o →
        ∃ v, [Value.int 7, .int 8][i]? = some v ∧ o.result = o.read.ofValue v := by
  intro columns record
  have long : columns.length ≤ record.length := by decide
  have distinct : columns.Pairwise fun c d => c.sameExpr d = false := by decide +kernel
  have fields : mailNameId.fields (.read columns record) =
      [.bare "mail", .catName, Field.catId.aliased "key", .catName, .catId] := rfl
  have shown : ∀ f ∈ mailNameId.fields (.read columns record),
      ∃ c ∈ columns, c.sameExpr f = true := by
    rw [fields]
    decide +kernel
  have counts : mailNameId.counts (.read columns record) = [0, 1, 2, 3, 4] := by decide +kernel
  have own : ∀ (i : Nat) (f : Field), [Field.catId, .catId][i]? = some f →
      [Field.catId, .catId][i]?.any (·.sameExpr f) = true := by
    have same : Field.catId.sameExpr .catId = true := by decide +kernel
    intro i f found
    match i with
    | 0 | 1 => exact Option.some.inj found ▸ same
    | _ + 2 => exact nomatch found
  obtain ⟨projected, -⟩ := mailNameId.reads_by_expression columns record long
  obtain ⟨answers, counted⟩ := projected distinct shown
  rw [counts] at counted
  have twice :=
    (idAndId.reads_by_expression [.catId, .catId] [.int 7, .int 8] (Nat.le_refl 2)).2 own
  exact ⟨long, distinct, shown, fun o done => (answers o done).2, counted, twice⟩

end Reading

end SqlTree
