import Mathlib.Data.List.Basic
import SqlTree.Proofs.Run.Fetching
import SqlTree.Proofs.Tree.Sameness

/-!
Registration. What a mapper reads before there are rows becomes the projection: every expression
once, in the order of first reads. On the rows of that projection the same reads find their columns,
wherever the cursor stands, unless an expression holds a NaN and so differs from itself.
-/

namespace SqlTree

/-! ### Mappers by what they read -/

inductive Read : Type 1 where
  | column {α : Type} (dec : Decoder α) (f : Field)
  | json? {α : Type} (details : Details) (shape : Json → Except String α) (f : Field)
  | json {α : Type} (details : Details) (shape : Json → Except String α) (standIn : α) (f : Field)

namespace Read

def Result : Read → Type
  | @column α _ _ => α
  | @json? α _ _ _ => Option α
  | @json α _ _ _ _ => α

def field : Read → Field
  | column _ f => f
  | json? _ _ f => f
  | json _ _ _ f => f

def reader : (r : Read) → RowReader r.Result
  | column dec f => Cursor.get dec f
  | json? details shape f => Cursor.getJson? details shape f
  | json details shape standIn f => Cursor.getJson details shape standIn f

end Read

def Decoder.ofColumn {α : Type} (dec : Decoder α) (f : Field) (v : Value) : Except Error α :=
  (dec.decode v).mapError fun fault => .decode f.label (.value fault.message)

namespace Read

/-- What a read asks its column for, before it is taken apart. -/
def Raw : Read → Type
  | @column α _ _ => α
  | json? .. => Option Json
  | json .. => Option Json

def decoder : (r : Read) → Decoder r.Raw
  | column dec _ => dec
  | json? details .. => (Decoder.json details).optional
  | json details .. => (Decoder.json details).optional

def shaped? {α : Type} (shape : Json → Except String α) (f : Field) :
    Option Json → Except Error (Option α)
  | none => .ok none
  | some j =>
      match shape j with
      | .ok a => .ok (some a)
      | .error detail => .error (.decode f.label (.value (DecodeFault.jsonShape detail).message))

def orStandIn {α : Type} (standIn : α) (f : Field) (registering : Bool) : Option α → Except Error α
  | some a => .ok a
  | none =>
      if registering then .ok standIn
      else .error (.decode f.label (.value (DecodeFault.mismatch "json" .null).message))

def finish : (r : Read) → (registering : Bool) → r.Raw → Except Error r.Result
  | column .., _, a => .ok a
  | json? _ shape f, _, j => shaped? shape f j
  | json _ shape standIn f, registering, j =>
      (shaped? shape f j).bind (orStandIn standIn f registering)

def ofValue (r : Read) (v : Value) : Except Error r.Result :=
  (r.decoder.ofColumn r.field v).bind (r.finish false)

end Read

/-- A mapper by what it does with one row: it reads columns, goes on from whatever it is given, be
it an error, and may look at the number of values so far and at whether it only registers. -/
inductive Reading (α : Type) : Type 1 where
  | done (result : Except Error α)
  | read (r : Read) (next : Except Error r.Result → Reading α)
  | look (next : Nat → Bool → Reading α)

structure Outcome : Type 1 where
  read : Read
  result : Except Error read.Result

namespace Reading

variable {α : Type}

def run : Reading α → RowReader α
  | done result => fun (c : Cursor) => (result, c)
  | read r next => fun (c : Cursor) =>
      let (result, left) := r.reader.run c
      (next result).run left
  | look next => fun (c : Cursor) => (next c.count c.isRegistering).run c

def outcomes : Reading α → Cursor → List Outcome
  | done _, _ => []
  | read r next, c =>
      let (result, left) := r.reader.run c
      ⟨r, result⟩ :: (next result).outcomes left
  | look next, c => (next c.count c.isRegistering).outcomes c

theorem outcomes_read (r : Read) (next : Except Error r.Result → Reading α) (c : Cursor) :
    (read r next).outcomes c =
      ⟨r, (r.reader.run c).1⟩ :: (next (r.reader.run c).1).outcomes (r.reader.run c).2 := rfl

theorem run_read (r : Read) (next : Except Error r.Result → Reading α) (c : Cursor) :
    (read r next).run.run c = (next (r.reader.run c).1).run.run (r.reader.run c).2 := rfl

def fields (m : Reading α) (c : Cursor) : List Field := (m.outcomes c).map (·.read.field)

theorem fields_read (r : Read) (next : Except Error r.Result → Reading α) (c : Cursor) :
    (read r next).fields c = r.field :: (next (r.reader.run c).1).fields (r.reader.run c).2 := rfl

def columns (m : Reading α) : List Field := (m.run.run Cursor.register).2.registered

end Reading

/-! ### Registering -/

section Registering

/-- Every field that was registered has a column of its own. -/
structure Covers (columns fields : List Field) : Prop where
  distinct : columns.Pairwise fun c d => c.sameExpr d = false
  present : ∀ f ∈ fields, f.expr.Each NodeProperty.numeric → ∃ c ∈ columns, c.sameExpr f = true

theorem Covers.addField {columns fields : List Field} (covers : Covers columns fields) (f : Field) :
    Covers (Cursor.addField columns f) (fields ++ [f]) := by
  unfold Cursor.addField
  split
  case isTrue known =>
    refine ⟨covers.distinct, fun g member numeric => ?_⟩
    rcases List.mem_append.mp member with old | new
    · exact covers.present g old numeric
    · obtain rfl := List.mem_singleton.mp new
      exact List.any_eq_true.mp known
  case isFalse unknown =>
    have apart : ∀ c ∈ columns, c.sameExpr f = false := fun c among =>
      Bool.eq_false_iff.mpr fun same => unknown (List.any_eq_true.mpr ⟨c, among, same⟩)
    constructor
    · rw [List.pairwise_append]
      refine ⟨covers.distinct, List.pairwise_singleton _ f, fun c old d new => ?_⟩
      rw [List.mem_singleton.mp new]
      exact apart c old
    · intro g member numeric
      rcases List.mem_append.mp member with old | new
      · obtain ⟨c, among, same⟩ := covers.present g old numeric
        exact ⟨c, List.mem_append_left [f] among, same⟩
      · obtain rfl := List.mem_singleton.mp new
        exact ⟨g, List.mem_append_right columns (List.mem_singleton_self g),
          g.sameExpr_self_iff.mpr numeric⟩

theorem Covers.addFields {columns fields : List Field} (covers : Covers columns fields)
    (more : List Field) : Covers (more.foldl Cursor.addField columns) (fields ++ more) := by
  induction more generalizing columns fields with
  | nil =>
      rw [List.append_nil]
      exact covers
  | cons f rest ih =>
      have added := ih (covers.addField f)
      rw [List.append_assoc] at added
      exact added

theorem Cursor.foldl_addField (columns fields : List Field) :
    fields.foldl addField columns =
      List.eraseDupsBy.loop Field.sameExpr fields columns.reverse := by
  induction fields generalizing columns with
  | nil => simp [List.eraseDupsBy.loop]
  | cons f rest ih =>
      have seen : columns.any (·.sameExpr f) = columns.reverse.any f.sameExpr := by
        rw [List.any_reverse]
        exact congrArg columns.any (funext fun c => c.sameExpr_comm f)
      rw [List.foldl_cons, ih, List.eraseDupsBy.loop, addField, seen]
      cases columns.reverse.any f.sameExpr with
      | true => rfl
      | false => simp

theorem Cursor.run_getJson? {α : Type} (details : Details) (shape : Json → Except String α)
    (f : Field) {c left : Cursor} {raw : Except Error (Option Json)}
    (got : (get (Decoder.json details).optional f).run c = (raw, left)) :
    (getJson? details shape f).run c = (raw.bind (Read.shaped? shape f), left) := by
  rcases raw with e | _ | j
  · exact Steps.bind_error got
  · exact Steps.bind_ok got
  · refine (Steps.bind_ok got).trans ?_
    simp only [Read.shaped?, Except.bind]
    cases shape j <;> rfl

theorem Cursor.run_getJson {α : Type} (details : Details) (shape : Json → Except String α)
    (standIn : α) (f : Field) {c left : Cursor} {j? : Except Error (Option α)}
    (read : (getJson? details shape f).run c = (j?, left)) :
    (getJson details shape standIn f).run c =
      (j?.bind (Read.orStandIn standIn f left.isRegistering), left) := by
  rcases j? with e | _ | a
  · exact Steps.bind_error read
  · refine (Steps.bind_ok read).trans ?_
    show (if left.isRegistering then _ else _ : RowReader _) left = (if _ then _ else _, left)
    cases left.isRegistering <;> rfl
  · exact Steps.bind_ok read

theorem Read.reader_run (r : Read) (c : Cursor) {raw : Except Error r.Raw} {left : Cursor}
    (got : (Cursor.get r.decoder r.field).run c = (raw, left)) :
    r.reader.run c = (raw.bind (r.finish left.isRegistering), left) := by
  cases r with
  | column dec f =>
      refine got.trans (congrArg (·, left) ?_)
      cases raw <;> rfl
  | json? details shape f => exact Cursor.run_getJson? details shape f got
  | json details shape standIn f =>
      have shaped := Cursor.run_getJson? details shape f got
      refine (Cursor.run_getJson details shape standIn f shaped).trans (congrArg (·, left) ?_)
      cases raw <;> rfl

theorem Read.reader_registering (r : Read) (c : Cursor) {fields : List Field}
    (mode : c.mode = .registering fields) : ∃ a : r.Result, r.reader.run c =
      (.ok a, { c with mode := .registering (Cursor.addField fields r.field) }) := by
  have got : (Cursor.get r.decoder r.field).run c = (.ok r.decoder.placeholder,
      { c with mode := .registering (Cursor.addField fields r.field) }) := by
    simp only [Cursor.get, ExceptT.run, mode]
  have placeholder : ∃ a, r.finish true r.decoder.placeholder = .ok a := by
    cases r with
    | column dec f => exact ⟨dec.placeholder, rfl⟩
    | json? details shape f => exact ⟨none, rfl⟩
    | json details shape standIn f => exact ⟨standIn, rfl⟩
  obtain ⟨a, finished⟩ := placeholder
  exact ⟨a, (r.reader_run c got).trans (congrArg (·, _) finished)⟩

theorem Reading.run_registering {α : Type} (m : Reading α) {c : Cursor} {fields : List Field}
    (mode : c.mode = .registering fields) :
    (m.run.run c).2.mode = .registering ((m.fields c).foldl Cursor.addField fields) ∧
      ∀ o ∈ m.outcomes c, ∃ a, o.result = .ok a := by
  induction m generalizing c fields with
  | done result => exact ⟨mode, List.forall_mem_nil _⟩
  | look next ih => exact ih c.count c.isRegistering mode
  | read r next ih =>
      obtain ⟨a, run⟩ := r.reader_registering c mode
      obtain ⟨left, succeed⟩ := @ih (.ok a)
        { c with mode := .registering (Cursor.addField fields r.field) } _ rfl
      rw [fields_read, outcomes_read, run_read, run]
      exact ⟨left, List.forall_mem_cons.mpr ⟨⟨a, rfl⟩, succeed⟩⟩

theorem Reading.columns_eq {α : Type} (m : Reading α) :
    m.columns = (m.fields .register).foldl Cursor.addField [] := by
  have mode := (m.run_registering (c := Cursor.register) rfl).1
  rw [Reading.columns, Cursor.registered, mode]

theorem Reading.covers_columns {α : Type} (m : Reading α) :
    Covers m.columns (m.fields .register) := by
  have none : Covers [] [] := ⟨List.Pairwise.nil, List.forall_mem_nil _⟩
  rw [m.columns_eq]
  exact none.addFields (m.fields .register)

end Registering

/-! ### Reading rows -/

section Rows

variable {columns : List Field} {record : Record} {f : Field}

theorem countP_le_one {α : Type} {list : List α} (p : α → Bool)
    (apart : list.Pairwise fun a b => ¬(p a = true ∧ p b = true)) : list.countP p ≤ 1 := by
  induction apart with
  | nil => exact Nat.zero_le 1
  | @cons a rest first _ ih =>
      rw [List.countP_cons]
      split
      case isFalse => exact ih
      case isTrue holds =>
        have none := List.countP_eq_zero.mpr fun b among other => first b among ⟨holds, other⟩
        exact Nat.le_of_eq (congrArg (· + 1) none)

namespace Covers

theorem countP_eq_one {fields : List Field} (covers : Covers columns fields) (read : f ∈ fields)
    (numeric : f.expr.Each NodeProperty.numeric) : columns.countP (·.sameExpr f) = 1 := by
  obtain ⟨c, among, same⟩ := covers.present f read numeric
  have some : 0 < columns.countP (·.sameExpr f) := List.countP_pos_iff.mpr ⟨c, among, same⟩
  have most : columns.countP (·.sameExpr f) ≤ 1 := countP_le_one _
    (covers.distinct.imp fun apart both =>
      Bool.noConfusion ((Field.sameExpr_through both.1 both.2).symm.trans apart))
  omega

theorem position?_eq {fields : List Field} (covers : Covers columns fields) (read : f ∈ fields)
    (numeric : f.expr.Each NodeProperty.numeric) (next : Nat) :
    Cursor.position? columns next f = some (columns.findIdx (·.sameExpr f)) := by
  have found := List.findIdx?_eq_some_of_exists (covers.present f read numeric)
  unfold Cursor.position?
  split
  case isFalse => exact found
  case isTrue expected =>
    obtain ⟨c, here, same⟩ := (Option.any_eq_true _ _).mp expected
    obtain ⟨bound, rfl⟩ := List.getElem?_eq_some_iff.mp here
    rw [(List.findIdx_eq bound).mpr ⟨same, fun i earlier => ?_⟩]
    rw [Bool.eq_false_iff]
    intro other
    have apart := List.pairwise_iff_getElem.mp covers.distinct i next
      (Nat.lt_trans earlier bound) bound earlier
    exact Bool.noConfusion ((Field.sameExpr_through other same).symm.trans apart)

end Covers

def Cursor.behind (c : Cursor) (index : Nat) (v : Value) : Cursor :=
  { c with next := index + 1, count := if v.isNull then c.count else c.count + 1 }

theorem Read.reader_reading (r : Read) (c : Cursor) {index : Nat} {v : Value}
    (mode : c.mode = .reading columns record)
    (column : Cursor.position? columns c.next r.field = some index)
    (value : record[index]? = some v) : r.reader.run c = (r.ofValue v, c.behind index v) := by
  have got : (Cursor.get r.decoder r.field).run c =
      (r.decoder.ofColumn r.field v, c.behind index v) := by
    simp only [Cursor.get, ExceptT.run, mode, column, value, Cursor.behind]
    cases v.isNull <;> rfl
  have reads : (c.behind index v).isRegistering = false := by
    simp only [Cursor.isRegistering, Cursor.behind, mode]
  rw [r.reader_run c got, reads]
  rfl

theorem Reading.outcomes_reading {β : Type} {fields : List Field} (covers : Covers columns fields)
    (numeric : ∀ f ∈ fields, f.expr.Each NodeProperty.numeric)
    (full : record.length = columns.length) (m : Reading β) {c : Cursor}
    (mode : c.mode = .reading columns record) (known : ∀ f ∈ m.fields c, f ∈ fields) :
    ∀ o ∈ m.outcomes c, ∃ v, record[columns.findIdx (·.sameExpr o.read.field)]? = some v ∧
      o.result = o.read.ofValue v := by
  induction m generalizing c with
  | done result => exact List.forall_mem_nil _
  | look next ih => exact ih c.count c.isRegistering mode known
  | read r next ih =>
      rw [fields_read] at known
      obtain ⟨first, others⟩ := List.forall_mem_cons.mp known
      have column := covers.position?_eq first (numeric r.field first) c.next
      have bound : columns.findIdx (·.sameExpr r.field) < record.length :=
        full ▸ List.findIdx_lt_length.mpr (covers.present r.field first (numeric r.field first))
      have value := List.getElem?_eq_getElem bound
      have run := r.reader_reading c mode column value
      rw [run] at others
      rw [outcomes_read, run]
      exact List.forall_mem_cons.mpr ⟨⟨_, value, rfl⟩, ih _ mode others⟩

end Rows

/-! ### Errors of reads -/

/-- The error of a read without a value: its field is no column, or the row ends before it. -/
inductive Error.FindsNothing : Error → Prop where
  | column (label : String) : FindsNothing (.decode label .unprojected)
  | value (label : String) (length place : Nat) :
      FindsNothing (.decode label (.rowEnds length place))

theorem Decoder.fault_of_ofColumn {α : Type} (dec : Decoder α) (f : Field) (v : Value) {e : Error}
    (failed : dec.ofColumn f v = .error e) :
    ∃ fault : DecodeFault, e = .decode f.label (.value fault.message) := by
  rw [ofColumn] at failed
  cases decoded : dec.decode v with
  | ok a =>
      rw [decoded] at failed
      cases failed
  | error fault =>
      rw [decoded] at failed
      exact ⟨fault, (Except.error.inj failed).symm⟩

theorem Read.fault_of_shaped? {α : Type} (shape : Json → Except String α) (f : Field)
    (j : Option Json) {e : Error} (failed : shaped? shape f j = .error e) :
    ∃ fault : DecodeFault, e = .decode f.label (.value fault.message) := by
  cases j with
  | none => cases failed
  | some j =>
      simp only [shaped?] at failed
      cases found : shape j with
      | ok a =>
          rw [found] at failed
          cases failed
      | error detail =>
          rw [found] at failed
          exact ⟨.jsonShape detail, (Except.error.inj failed).symm⟩

theorem Read.fault_of_finish (r : Read) (raw : r.Raw) {e : Error}
    (failed : r.finish false raw = .error e) :
    ∃ fault : DecodeFault, e = .decode r.field.label (.value fault.message) := by
  cases r with
  | column dec f => cases failed
  | json? details shape f => exact fault_of_shaped? shape f raw failed
  | json details shape standIn f =>
      rcases shaped : shaped? shape f raw with other | _ | a
      · rw [finish, shaped] at failed
        obtain rfl := Except.error.inj failed
        exact fault_of_shaped? shape f raw shaped
      · rw [finish, shaped] at failed
        exact ⟨.mismatch "json" .null, (Except.error.inj failed).symm⟩
      · rw [finish, shaped] at failed
        cases failed

theorem Read.fault_of_ofValue (r : Read) (v : Value) {e : Error} (failed : r.ofValue v = .error e) :
    ∃ fault : DecodeFault, e = .decode r.field.label (.value fault.message) := by
  cases decoded : r.decoder.ofColumn r.field v with
  | error other =>
      rw [ofValue, decoded] at failed
      obtain rfl := Except.error.inj failed
      exact Decoder.fault_of_ofColumn _ r.field v decoded
  | ok raw =>
      rw [ofValue, decoded] at failed
      exact r.fault_of_finish raw failed

theorem Read.found_of_ofValue (r : Read) (v : Value) {e : Error} (failed : r.ofValue v = .error e) :
    ¬ e.FindsNothing := by
  obtain ⟨fault, rfl⟩ := r.fault_of_ofValue v failed
  exact fun nothing => nomatch nothing

/-- A statement without columns gets those that the mapper reads. -/
theorem Reading.registered_run {ω σ α : Type} (m : Reading α) (q : Query) (session : Session ω)
    (own : σ) (none : q.projection = []) (some : m.columns ≠ [])
    (ok : ∃ a, (m.run.run .register).1 = .ok a) :
    (Fetching.registered q (Mapper.reading m.run)).run (session, own) =
      (.ok (q.withProjection m.columns), session, own) := by
  obtain ⟨result, next, first, registers, ends⟩ :=
    Fetching.registered_ends q (Mapper.reading m.run) session own
  obtain ⟨a, ok⟩ := ok
  have run : (Mapper.reading m.run).run (.register, own) =
      (.ok a, (m.run.run .register).2, own) := by
    show ((m.run.run .register).1, (m.run.run .register).2, own) = _
    rw [ok]
  rw [ends.run]
  cases registers with
  | given columns => exact absurd none columns
  | failed _ call =>
      rw [run] at call
      cases call
  | nothing _ call unread =>
      rw [run] at call
      cases call
      exact absurd unread some
  | registered _ call read =>
      rw [run] at call
      cases call
      rfl

/-- A mapper that reads columns in registration finds the projection that its reads need, if no
expression holds a NaN: every expression once, in the order of first reads, which is what a
statement without columns is given. On any row with so many values, the reads among those find their
columns whatever else the mapper does, the same column for the same expression; what they make of
the values there may fail, but none of them finds no column or no value. -/
theorem Reading.projects_fields_read {α : Type} (m : Reading α)
    (numeric : ∀ f ∈ m.fields .register, f.expr.Each NodeProperty.numeric) :
    m.columns = (m.fields .register).eraseDupsBy Field.sameExpr ∧
    (∀ f ∈ m.fields .register, m.columns.countP (·.sameExpr f) = 1) ∧
    (∀ {ω σ : Type} (q : Query) (session : Session ω) (own : σ), q.projection = [] →
      m.fields .register ≠ [] → (∃ a, (m.run.run .register).1 = .ok a) →
      (Fetching.registered q (Mapper.reading m.run)).run (session, own) =
        (.ok (q.withProjection m.columns), session, own)) ∧
    (∀ f g : Field, f.sameExpr g = true →
      m.columns.findIdx (·.sameExpr f) = m.columns.findIdx (·.sameExpr g)) ∧
    ∀ {β : Type} (again : Reading β) (record : Record), record.length = m.columns.length →
      (∀ f ∈ again.fields (.read m.columns record), f ∈ m.fields .register) →
      ∀ o ∈ again.outcomes (.read m.columns record), ∃ v,
        record[m.columns.findIdx (·.sameExpr o.read.field)]? = some v ∧
          o.result = o.read.ofValue v ∧ ∀ e, o.result = .error e → ¬ e.FindsNothing := by
  have covers := m.covers_columns
  refine ⟨?_, fun f read => covers.countP_eq_one read (numeric f read), ?_, ?_, ?_⟩
  · rw [m.columns_eq, Cursor.foldl_addField]
    rfl
  · intro ω σ q session own none some ok
    obtain ⟨f, read⟩ := List.exists_mem_of_ne_nil _ some
    refine m.registered_run q session own none (fun empty => ?_) ok
    have column := covers.countP_eq_one read (numeric f read)
    rw [empty] at column
    cases column
  · intro f g same
    exact congrArg m.columns.findIdx (funext fun c => Field.sameExpr_congr same c)
  · intro β again record full known o done
    obtain ⟨v, value, result⟩ := again.outcomes_reading covers numeric full rfl known o done
    exact ⟨v, value, result, fun e failed => o.read.found_of_ofValue v (result.symm.trans failed)⟩

def Field.catId : Field := ⟨.column "cat" "" "id" .number, none, none, none⟩

def Field.catName : Field := ⟨.column "cat" "" "name" .string, none, none, none⟩

def Reading.idNameId : Reading Int64 :=
  .read (.column .int64 .catId) fun _ => .read (.column .string .catName) fun _ =>
    .read (.column .int64 .catId) .done

theorem Reading.projects_fields_read_again :
    (∀ f ∈ idNameId.fields .register, f.expr.Each NodeProperty.numeric) ∧
      idNameId.columns.length = 2 ∧
      (∀ f ∈ idNameId.fields .register, idNameId.columns.countP (·.sameExpr f) = 1) ∧
      ∀ o ∈ idNameId.outcomes (.read idNameId.columns [.int 7, .text "Tom"]), ∃ v,
        [Value.int 7, .text "Tom"][idNameId.columns.findIdx (·.sameExpr o.read.field)]? = some v ∧
          o.result = o.read.ofValue v ∧ ∀ e, o.result = .error e → ¬ e.FindsNothing := by
  have fields : ∀ c, idNameId.fields c = [.catId, .catName, .catId] := fun _ => rfl
  have numeric : ∀ f ∈ idNameId.fields .register, f.expr.Each NodeProperty.numeric := by
    simp [fields, Field.catId, Field.catName, Expr.Each]
  have two : idNameId.columns.length = 2 := by decide +kernel
  obtain ⟨-, once, -, -, found⟩ := idNameId.projects_fields_read numeric
  refine ⟨numeric, two, once, found idNameId _ two.symm ?_⟩
  rw [fields, fields]
  exact fun f read => read

/-! ### Expressions that differ from themselves -/

section Unordered

variable {f : Field} (nan : ¬ f.expr.Each NodeProperty.numeric)

include nan

theorem Cursor.position?_of_nan (columns : List Field) (next : Nat) :
    position? columns next f = none := by
  have other : ∀ c : Field, c.sameExpr f = false := fun c =>
    Bool.eq_false_iff.mpr fun same => nan ((Field.sameExpr_iff c f).mp same).2.1
  simp [position?, other]

theorem Cursor.addField_of_nan (columns : List Field) : addField columns f = columns ++ [f] := by
  have other : ∀ c : Field, c.sameExpr f = false := fun c =>
    Bool.eq_false_iff.mpr fun same => nan ((Field.sameExpr_iff c f).mp same).2.1
  simp [addField, other]

/-- So no row has a value for it. -/
theorem Read.reader_of_nan {columns : List Field} {record : Record} (r : Read) (own : r.field = f)
    (c : Cursor) (mode : c.mode = .reading columns record) :
    ∃ e : Error, r.reader.run c = (.error e, c) ∧ e.FindsNothing := by
  have got : (Cursor.get r.decoder r.field).run c =
      (.error (.decode r.field.label .unprojected), c) := by
    simp only [Cursor.get, ExceptT.run, mode, Cursor.position?_of_nan (own ▸ nan)]
  exact ⟨_, r.reader_run c got, .column r.field.label⟩

end Unordered

theorem Reading.outcomes_of_nan {β : Type} {columns : List Field} {record : Record} (m : Reading β)
    {c : Cursor} (mode : c.mode = .reading columns record)
    (nan : ∀ f ∈ m.fields c, ¬ f.expr.Each NodeProperty.numeric) :
    ∀ o ∈ m.outcomes c, ∃ e, o.result = .error e ∧ e.FindsNothing := by
  induction m generalizing c with
  | done result => exact List.forall_mem_nil _
  | look next ih => exact ih c.count c.isRegistering mode nan
  | read r next ih =>
      rw [fields_read] at nan
      obtain ⟨first, others⟩ := List.forall_mem_cons.mp nan
      obtain ⟨e, run, nothing⟩ := r.reader_of_nan first rfl c mode
      rw [run] at others
      rw [outcomes_read, run]
      exact List.forall_mem_cons.mpr ⟨⟨e, rfl, nothing⟩, ih _ mode others⟩

def Field.scoreOrNaN : Field :=
  ⟨.template "COALESCE(?, ?)"
    [⟨.column "t" "" "score" .number, none, none, none⟩, ⟨.value (.float .nan), none, none, none⟩],
    none, none, none⟩

def Reading.scoreTwice : Reading Double :=
  .read (.column .float .scoreOrNaN) fun _ => .read (.column .float .scoreOrNaN) .done

/-- Read twice, the expression is registered twice, and neither read of a row finds it. -/
theorem Reading.nan_reads_find_nothing :
    scoreTwice.fields .register = [.scoreOrNaN, .scoreOrNaN] ∧
      scoreTwice.columns = [.scoreOrNaN, .scoreOrNaN] ∧
      ∀ v w : Value, scoreTwice.fields (.read scoreTwice.columns [v, w]) =
          scoreTwice.fields .register ∧
        ∀ o ∈ scoreTwice.outcomes (.read scoreTwice.columns [v, w]),
          ∃ e, o.result = .error e ∧ e.FindsNothing := by
  have nan : ¬ Field.scoreOrNaN.expr.Each NodeProperty.numeric := by
    have holds : (Value.float .nan).holdsNaN = true := by decide +kernel
    simp [Field.scoreOrNaN, Expr.Each, Field.EachOf, Field.Each, holds]
  have fields : ∀ c, scoreTwice.fields c = [.scoreOrNaN, .scoreOrNaN] := fun _ => rfl
  have columns : scoreTwice.columns = [.scoreOrNaN, .scoreOrNaN] := by
    rw [columns_eq, fields, List.foldl_cons, Cursor.addField_of_nan nan, List.foldl_cons,
      Cursor.addField_of_nan nan]
    rfl
  refine ⟨fields _, columns, fun v w => ⟨rfl, scoreTwice.outcomes_of_nan rfl ?_⟩⟩
  rw [fields]
  simp [nan]

end SqlTree
