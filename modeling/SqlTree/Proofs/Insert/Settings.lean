import SqlTree.Proofs.Insert.Rows
import SqlTree.Proofs.Tree.Sameness

/-!
Rows of settings against rows of values: settings that set exactly the columns of a header give the
same INSERT as the header and, for each row, the values first set in the order of the header. The
first row that sets other columns is refused for good.
-/

namespace SqlTree

/-! ### What a row of settings holds -/

theorem Field.sameExpr_self_of_columnName? {f : Field} (named : f.expr.columnName?.isSome = true) :
    f.sameExpr f = true := by
  rw [sameExpr_self_iff]
  cases column : f.expr with
  | column table tableAlias name type => exact trivial
  | proposed name => exact trivial
  | value v => simp [column, Expr.columnName?] at named
  | shared name v => simp [column, Expr.columnName?] at named
  | template format operands => simp [column, Expr.columnName?] at named
  | scalar query => simp [column, Expr.columnName?] at named

namespace Setting

def column (s : Setting) : Field := s.assignment.target

def value (s : Setting) : Field := s.assignment.value

def first? (row : List Setting) (column : Field) : Option Field :=
  (row.find? (column.sameExpr ·.column)).map value

/-- The columns that are set, each once, in the order in which they are first set. -/
def columns : List Setting → List Field
  | [] => []
  | s :: rest => s.column :: (columns rest).filter (!s.column.sameExpr ·)

theorem add_behind (s x : Setting) (row : List Assignment) :
    add (s.assignment :: row.filter (!s.column.sameExpr ·.target)) x =
      s.assignment :: (add row x).filter (!s.column.sameExpr ·.target) := by
  have front : s.assignment.target = s.column := rfl
  have own : x.assignment.target = x.column := rfl
  -- one more setting of the first column is dropped on either side; any other meets the same row
  by_cases first : s.column.sameExpr x.column = true
  · have dropped : (add row x).filter (!s.column.sameExpr ·.target) =
        row.filter (!s.column.sameExpr ·.target) := by
      unfold add
      split
      · rfl
      · simp [own, first]
    rw [dropped, add, List.any_cons, front, own, first]
    rfl
  · have kept : (row.filter (!s.column.sameExpr ·.target)).any (·.target.sameExpr x.column) =
        row.any (·.target.sameExpr x.column) := by
      rw [List.any_filter]
      congr 1
      funext a
      by_cases known : a.target.sameExpr x.column = true
      · have apart : s.column.sameExpr a.target = false :=
          Bool.eq_false_iff.mpr fun same => first (Field.sameExpr_trans same known)
        simp [apart]
      · simp [known]
    simp only [add, List.any_cons, front, own, first, kept, Bool.false_or]
    split
    · rfl
    · simp [own, first]

theorem collect_cons (s : Setting) (rest : List Setting) :
    collect (s :: rest) =
      s.assignment :: (collect rest).filter (!s.column.sameExpr ·.target) := by
  have behind (row : List Assignment) : rest.foldl add
      (s.assignment :: row.filter (!s.column.sameExpr ·.target)) =
        s.assignment :: (rest.foldl add row).filter (!s.column.sameExpr ·.target) := by
    induction rest generalizing row with
    | nil => rfl
    | cons x rest ih => rw [List.foldl_cons, List.foldl_cons, add_behind, ih]
  exact behind []

theorem map_target_collect (row : List Setting) : (collect row).map (·.target) = columns row := by
  induction row with
  | nil => rfl
  | cons s rest ih =>
      rw [collect_cons, columns, ← ih, List.filter_map]
      rfl

def Distinct (list : List Field) : Prop := list.Pairwise fun c other => c.sameExpr other = false

theorem columns_distinct (row : List Setting) : Distinct (columns row) := by
  induction row with
  | nil => exact .nil
  | cons s rest ih =>
      refine List.pairwise_cons.mpr ⟨?_, ih.filter _⟩
      intro c member
      simpa using (List.mem_filter.mp member).2

theorem find?_collect {test : Field → Bool}
    (alike : ∀ f g : Field, f.sameExpr g = true → test f = test g) (row : List Setting) :
    (collect row).find? (test ·.target) = (row.find? (test ·.column)).map assignment := by
  induction row with
  | nil => rfl
  | cons s rest ih =>
      have front : s.assignment.target = s.column := rfl
      rw [collect_cons, List.find?_cons, List.find?_cons, front]
      cases found : test s.column with
      | true => rfl
      | false =>
          have passed : (fun a : Assignment => decide ((!s.column.sameExpr a.target) = true ∧
              test a.target = true)) = fun a => test a.target := by
            funext a
            cases same : s.column.sameExpr a.target with
            | true => simp [← alike _ _ same, found]
            | false => simp
          rw [List.find?_filter, passed, ih]

theorem any_collect {test : Field → Bool}
    (alike : ∀ f g : Field, f.sameExpr g = true → test f = test g) (row : List Setting) :
    (collect row).any (test ·.target) = row.any (test ·.column) := by
  rw [← List.isSome_find?, ← List.isSome_find?, find?_collect alike, Option.isSome_map]

end Setting

namespace Insert

open Setting

/-! ### Rows against a header -/

/-- The row sets exactly the columns of the header, in any order. -/
def Fits (header : List Field) (row : List Setting) : Prop :=
  (∀ s ∈ row, ∃ c ∈ header, c.sameExpr s.column = true) ∧
    ∀ c ∈ header, ∃ s ∈ row, c.sameExpr s.column = true

instance (header : List Field) (row : List Setting) : Decidable (Fits header row) :=
  inferInstanceAs (Decidable (_ ∧ _))

def inOrder (header : List Field) (row : List Setting) : List Field :=
  header.filterMap (first? row)

/-- What is wrong with a row: the first setting that is for none of the columns, or else the first
column that is not set. -/
def misfit? (number : Nat) (header : List Field) (row : List Setting) : Option RowFault :=
  match row.find? fun s => !header.any (·.sameExpr s.column) with
  | some s => some (.unknownColumn number s.column.name)
  | none => (header.find? fun c => !row.any (c.sameExpr ·.column)).map fun c =>
      .missingColumn number c.name

theorem misfit?_eq_none {number : Nat} {header : List Field} {row : List Setting} :
    misfit? number header row = none ↔ Fits header row := by
  have known : row.find? (fun s => !header.any (·.sameExpr s.column)) = none ↔
      ∀ s ∈ row, ∃ c ∈ header, c.sameExpr s.column = true := by simp
  have set : header.find? (fun c => !row.any (c.sameExpr ·.column)) = none ↔
      ∀ c ∈ header, ∃ s ∈ row, c.sameExpr s.column = true := by simp
  rw [Fits, ← known, ← set, misfit?]
  cases row.find? fun s => !header.any (·.sameExpr s.column) with
  | some s => simp
  | none => simp

theorem first?_isNone (row : List Setting) (c : Field) :
    (first? row c).isNone = !row.any (c.sameExpr ·.column) := by
  rw [first?, Option.isNone_map, ← List.isSome_find?, Option.not_isSome]

theorem Fits.length_inOrder {header : List Field} {row : List Setting} (fits : Fits header row) :
    (inOrder header row).length = header.length := by
  have each : ∀ c ∈ header, (first? row c).isSome = true := by
    intro c member
    simpa [first?] using fits.2 c member
  rw [inOrder, List.length_filterMap_eq_countP]
  exact List.countP_eq_length.mpr each

section Arrange

variable {header : List Field} {row : List Setting}

theorem findIdx_eq_iff (distinct : Distinct header) {position : Nat} {c : Field}
    (there : header[position]? = some c) (target : Field) :
    header.findIdx (·.sameExpr target) = position ↔ c.sameExpr target = true := by
  obtain ⟨bound, rfl⟩ := List.getElem?_eq_some_iff.mp there
  rw [List.findIdx_eq bound, and_iff_left_iff_imp]
  intro same before earlier
  refine Bool.eq_false_iff.mpr fun other => ?_
  have apart := List.pairwise_iff_getElem.mp distinct before position 
    (Nat.lt_trans earlier bound) bound earlier
  rw [Field.sameExpr_through other same] at apart
  exact Bool.true_eq_false.mp apart

theorem getLast?_collect (row : List Setting) (c : Field) :
    ((collect row).filter (c.sameExpr ·.target)).getLast? =
      (row.find? (c.sameExpr ·.column)).map assignment := by
  have single : ((collect row).filter (c.sameExpr ·.target)).getLast? =
      ((collect row).filter (c.sameExpr ·.target)).head? := by
    have apart : (collect row).Pairwise fun a b => a.target.sameExpr b.target = false := by
      have distinct := columns_distinct row
      rw [← map_target_collect, Distinct, List.pairwise_map] at distinct
      exact distinct
    have filtered := apart.filter (c.sameExpr ·.target)
    have own : ∀ a ∈ (collect row).filter (c.sameExpr ·.target), c.sameExpr a.target = true :=
      fun a member => (List.mem_filter.mp member).2
    generalize (collect row).filter (c.sameExpr ·.target) = list at filtered own ⊢
    rcases list with _ | ⟨a, _ | ⟨b, rest⟩⟩
    · rfl
    · rfl
    · have differs := (List.pairwise_cons.mp filtered).1 b List.mem_cons_self
      have left := Field.sameExpr_symm (own a List.mem_cons_self)
      have right := own b (List.mem_cons_of_mem a List.mem_cons_self)
      rw [Field.sameExpr_trans left right] at differs
      exact absurd differs (by decide)
  rw [single, List.head?_filter, find?_collect fun f g same => Field.sameExpr_congr same c]

theorem valueAt?_collect (distinct : Distinct header) {position : Nat} {c : Field}
    (there : header[position]? = some c) :
    valueAt? header (collect row) position = first? row c := by
  have same : (fun a : Assignment => decide (header.findIdx (·.sameExpr a.target) = position)) =
      (c.sameExpr ·.target) := by
    funext a
    rw [Bool.eq_iff_iff, decide_eq_true_iff]
    exact findIdx_eq_iff distinct there a.target
  rw [valueAt?, same, getLast?_collect, Option.map_map]
  rfl

theorem arrange_collect (distinct : Distinct header) :
    arrange header (collect row) =
      match header.find? fun c => !row.any (c.sameExpr ·.column) with
      | some c => .error c.name
      | none => .ok (inOrder header row) := by
  have each : ∀ x ∈ header.zipIdx, valueAt? header (collect row) x.2 = first? row x.1 :=
    fun x member => valueAt?_collect distinct (List.mem_zipIdx_iff_getElem?.mp member)
  have along (pairs : List (Field × Nat))
      (each : ∀ x ∈ pairs, valueAt? header (collect row) x.2 = first? row x.1) :
      (pairs.mapM fun x =>
        match valueAt? header (collect row) x.2 with
        | some value => Except.ok value
        | none => .error x.1.name) =
      match (pairs.map Prod.fst).find? fun c => !row.any (c.sameExpr ·.column) with
      | some c => .error c.name
      | none => .ok (inOrder (pairs.map Prod.fst) row) := by
    induction pairs with
    | nil => rfl
    | cons x rest ih =>
        obtain ⟨own, others⟩ := List.forall_mem_cons.mp each
        rw [List.mapM_cons, ih others, own, List.map_cons, List.find?_cons, ← first?_isNone]
        cases set : first? row x.1 with
        | none => rfl
        | some value =>
            have front : inOrder (x.1 :: rest.map Prod.fst) row =
                value :: inOrder (rest.map Prod.fst) row := List.filterMap_cons_some set
            rw [front]
            cases (rest.map Prod.fst).find? fun c => !row.any (c.sameExpr ·.column) with
            | none => rfl
            | some missing => rfl
  have whole := along header.zipIdx each
  rw [List.zipIdx_map_fst] at whole
  exact whole

end Arrange

/-! ### Rows added by settings -/

section Adding

variable {i : Insert} {row : List Setting}

/-- Once there are columns or rows, a row of settings is added in the order of the columns or is
refused. -/
theorem addSettings_begun (begun : (i.rows.isEmpty && i.columns.isEmpty) = false)
    (distinct : Distinct i.columns) :
    i.addSettings row =
      match misfit? (i.rows.length + 1) i.columns row with
      | some fault => i.fail fault
      | none => { i with rows := i.rows ++ [inOrder i.columns row] } := by
  have alike (f g : Field) (same : f.sameExpr g = true) :
      (!i.columns.any (·.sameExpr f)) = !i.columns.any (·.sameExpr g) := by
    simp only [Field.sameExpr_congr same]
  have met : (strangers i.columns (collect row)).head? =
      (row.find? fun s => !i.columns.any (·.sameExpr s.column)).map assignment := by
    rw [strangers, List.head?_filter, find?_collect alike]
  unfold addSettings addAssignments misfit?
  rw [begun, arrange_collect distinct]
  cases unknown : row.find? fun s => !i.columns.any (·.sameExpr s.column) with
  | some s =>
      rw [unknown] at met
      obtain ⟨others, split⟩ := List.head?_eq_some_iff.mp met
      rw [split]
      rfl
  | none =>
      rw [unknown] at met
      rw [List.head?_eq_none_iff.mp met]
      cases i.columns.find? fun c => !row.any (c.sameExpr ·.column) with
      | some c => rfl
      | none => rfl

variable (own : ∀ s ∈ row, s.column.sameExpr s.column = true)

include own

theorem first?_collect : ∀ a ∈ collect row, first? row a.target = some a.value := by
  induction row with
  | nil => exact fun a member => nomatch member
  | cons s rest ih =>
      obtain ⟨front, others⟩ := List.forall_mem_cons.mp own
      intro a member
      rw [collect_cons, List.mem_cons, List.mem_filter] at member
      rcases member with rfl | ⟨behind, apart⟩
      · have here : s.assignment.target.sameExpr s.column = true := front
        simp only [first?, List.find?_cons, here, Option.map_some]
        rfl
      · have differs : a.target.sameExpr s.column = false := by
          rw [Field.sameExpr_comm]
          simpa using apart
        have later := ih others a behind
        simpa only [first?, List.find?_cons, differs] using later

theorem addSettings_first (noRows : i.rows = []) (noColumns : i.columns = []) :
    i.addSettings row =
      { i with columns := Setting.columns row, rows := [inOrder (Setting.columns row) row] } := by
  have values : (collect row).map (·.value) = inOrder (Setting.columns row) row := by
    rw [inOrder, ← map_target_collect, List.filterMap_map, ← List.filterMap_eq_map]
    refine List.filterMap_congr fun a member => ?_
    exact (first?_collect own a member).symm
  unfold addSettings addAssignments
  rw [noRows, noColumns, map_target_collect, values]
  rfl

theorem fits_columns : Fits (Setting.columns row) row := by
  constructor
  · intro s member
    have alike (f g : Field) (same : f.sameExpr g = true) :
        f.sameExpr s.column = g.sameExpr s.column := by
      rw [Field.sameExpr_comm, Field.sameExpr_comm g, Field.sameExpr_congr same]
    have some : (collect row).any (·.target.sameExpr s.column) = true := by
      rw [any_collect alike]
      exact List.any_eq_true.mpr ⟨s, member, own s member⟩
    obtain ⟨a, present, same⟩ := List.any_eq_true.mp some
    refine ⟨a.target, ?_, same⟩
    rw [← map_target_collect]
    exact List.mem_map_of_mem present
  · intro c member
    rw [← map_target_collect] at member
    obtain ⟨a, present, rfl⟩ := List.mem_map.mp member
    have unset := first?_isNone row a.target
    rw [first?_collect own a present] at unset
    simpa using unset

end Adding

def firstMisfit? (number : Nat) (header : List Field) : List (List Setting) → Option RowFault
  | [] => none
  | row :: rest => (misfit? number header row).or (firstMisfit? (number + 1) header rest)

/-- The rows that fit are added in order. The first that does not is remembered. -/
theorem foldl_addSettings {i : Insert} (begun : (i.rows.isEmpty && i.columns.isEmpty) = false)
    (distinct : Distinct i.columns) (rows : List (List Setting)) :
    rows.foldl addSettings i =
      { i with
        rows := i.rows ++ (rows.filter (Fits i.columns ·)).map (inOrder i.columns)
        fault := i.fault.or (firstMisfit? (i.rows.length + 1) i.columns rows) } := by
  induction rows generalizing i with
  | nil =>
      rw [List.foldl_nil, firstMisfit?, Option.or_none, List.filter_nil, List.map_nil,
        List.append_nil]
      -- a node of the syntax is its own update only once it is taken apart
      cases i
      rfl
  | cons row rest ih =>
      rw [List.foldl_cons, addSettings_begun begun distinct, firstMisfit?]
      cases wrong : misfit? (i.rows.length + 1) i.columns row with
      | some fault =>
          -- later misfits count from the same number, but the first fault stays
          have fitless : ¬ Fits i.columns row := by
            rw [← @misfit?_eq_none (i.rows.length + 1) i.columns row, wrong]
            exact Option.some_ne_none fault
          have refused := ih (i := i.fail fault) begun distinct
          simp only [refused]
          simp [fail, fitless]
      | none =>
          have fits : Fits i.columns row := misfit?_eq_none.mp wrong
          have added := ih (i := { i with rows := i.rows ++ [inOrder i.columns row] })
            (by simp) distinct
          simp [added, fits]

/-! ### Calls -/

def Call.settingRows : Call → List (List Setting)
  | .settings row => [row]
  | .settingsEach rows => rows
  | .ctes _ | .columns _ | .values _ | .source _ | .conflict _ | .returning _ => []

def Call.OfSettings : Call → Prop
  | .settings _ | .settingsEach _ => True
  | .ctes _ | .columns _ | .values _ | .source _ | .conflict _ | .returning _ => False

theorem calls_ofSettings {list : List Call} (setters : ∀ c ∈ list, c.OfSettings) (i : Insert) :
    i.calls list = (list.flatMap Call.settingRows).foldl addSettings i := by
  induction list generalizing i with
  | nil => rfl
  | cons c rest ih =>
      obtain ⟨own, others⟩ := List.forall_mem_cons.mp setters
      have front : i.call c = c.settingRows.foldl addSettings i := by
        cases c with
        | settings row => rfl
        | settingsEach rows => rfl
        | ctes _ | columns _ | values _ | source _ | conflict _ | returning _ => exact own.elim
      rw [List.flatMap_cons, List.foldl_append, ← front, ← ih others]
      rfl

theorem calls_values {i : Insert} {rows : List (List Field)}
    (filled : ∀ row ∈ rows, row.length = i.columns.length) :
    i.calls (rows.map .values) = { i with rows := i.rows ++ rows } := by
  induction rows generalizing i with
  | nil =>
      rw [List.append_nil]
      cases i
      rfl
  | cons row rest ih =>
      obtain ⟨own, others⟩ := List.forall_mem_cons.mp filled
      have front : i.call (.values row) = { i with rows := i.rows ++ [row] } := by
        rw [call, addValues, if_pos own]
      have behind := ih (i := { i with rows := i.rows ++ [row] }) others
      rw [List.append_assoc, List.singleton_append] at behind
      rw [List.map_cons, calls, List.foldl_cons, front]
      exact behind

structure Keeps (i next : Insert) : Prop where
  table : next.table = i.table
  fault : ∀ fault, i.fault = some fault → next.fault = some fault

namespace Keeps

variable {i : Insert}

theorem same : Keeps i i where
  table := rfl
  fault _ found := found

theorem trans {next last : Insert} (first : Keeps i next) (second : Keeps next last) :
    Keeps i last where
  table := second.table.trans first.table
  fault fault found := second.fault fault (first.fault fault found)

theorem fail (fault : RowFault) : Keeps i (i.fail fault) where
  table := rfl
  fault first found := by
    rw [Insert.fail, found]
    rfl

theorem addValues (row : List Field) : Keeps i (i.addValues row) := by
  unfold Insert.addValues
  split
  · exact ⟨rfl, fun _ found => found⟩
  · have refused : Keeps i _ :=
      .fail (.valueCount (i.rows.length + 1) row.length i.columns.length)
    exact ⟨refused.table, refused.fault⟩

theorem addSettings (row : List Setting) : Keeps i (i.addSettings row) := by
  unfold Insert.addSettings addAssignments
  split
  · exact ⟨rfl, fun _ found => found⟩
  · split
    · exact fail _
    · split
      · exact fail _
      · exact ⟨rfl, fun _ found => found⟩

theorem call (c : Call) : Keeps i (i.call c) := by
  cases c with
  | values row => exact addValues row
  | settings row => exact addSettings row
  | settingsEach rows =>
      show Keeps i (rows.foldl Insert.addSettings i)
      induction rows generalizing i with
      | nil => exact same
      | cons row rest ih => exact (addSettings row).trans ih
  | ctes _ | columns _ | source _ | conflict _ | returning _ => exact ⟨rfl, fun _ found => found⟩

theorem calls (list : List Call) : Keeps i (i.calls list) := by
  induction list generalizing i with
  | nil => exact same
  | cons c rest ih => exact (call c).trans ih

end Keeps

theorem build_of_fault {i : Insert} {fault : RowFault} (found : i.fault = some fault)
    (d : Dialect) :
    (Query.insert i).build d =
      .error (.render ("INSERT INTO `" ++ i.table.name ++ "`") fault.message) := by
  have first : (i.script d).fault = some (.malformed (.insert i.table.name) (.rows fault)) := by
    rw [script_eq, opening, found]
    rfl
  exact Query.build_eq_error.mpr ⟨_, first, rfl⟩

/-- The columns of rows of settings: those given, or with none given those of the first row. -/
def headerOf (given : Option (List Field)) (rows : List (List Setting)) : List Field :=
  match given.getD [] with
  | [] => (rows.head?.map Setting.columns).getD []
  | c :: rest => c :: rest

section Fresh

variable {table : Table} {given : Option (List Field)}

/-- The columns of all rows are settled by what is given and by the first row. -/
theorem foldl_fresh (distinct : ∀ header ∈ given, Distinct header) (rows : List (List Setting))
    (own : ∀ row ∈ rows, ∀ s ∈ row, s.column.sameExpr s.column = true) :
    rows.foldl addSettings ((into table).calls (given.toList.map .columns)) =
      { into table with
        columns := headerOf given rows
        rows := (rows.filter (Fits (headerOf given rows) ·)).map (inOrder (headerOf given rows))
        fault := firstMisfit? 1 (headerOf given rows) rows } := by
  have start : (into table).calls (given.toList.map .columns) =
      { into table with columns := given.getD [] } := by
    cases given <;> rfl
  have apart : Distinct (given.getD []) := by
    cases given with
    | none => exact .nil
    | some header => exact distinct header rfl
  rw [start]
  cases columns : given.getD [] with
  | cons c others =>
      have header : headerOf given rows = c :: others := by rw [headerOf, columns]
      rw [columns] at apart
      rw [header, foldl_addSettings (i := { into table with columns := c :: others }) rfl apart]
      rfl
  | nil =>
      cases rows with
      | nil =>
          have header : headerOf given [] = [] := by
            rw [headerOf, columns]
            rfl
          rw [header]
          rfl
      | cons row rest =>
          obtain ⟨front, -⟩ := List.forall_mem_cons.mp own
          have header : headerOf given (row :: rest) = Setting.columns row := by
            rw [headerOf, columns]
            rfl
          have fits : Fits (Setting.columns row) row := fits_columns front
          have first : (into table).addSettings row =
              { into table with
                columns := Setting.columns row, rows := [inOrder (Setting.columns row) row] } :=
            addSettings_first front rfl rfl
          have later := foldl_addSettings
            (i := { into table with
                columns := Setting.columns row, rows := [inOrder (Setting.columns row) row] })
            rfl (columns_distinct row) rest
          have sound : firstMisfit? 1 (Setting.columns row) (row :: rest) =
              firstMisfit? 2 (Setting.columns row) rest := by
            rw [firstMisfit?, misfit?_eq_none.mpr fits, Option.none_or]
          have taken : (row :: rest).filter (Fits (Setting.columns row) ·) =
              row :: rest.filter (Fits (Setting.columns row) ·) := by simp [fits]
          have started : { into table with columns := [] } = into table := rfl
          rw [started, List.foldl_cons, first, later, header, sound, taken]
          rfl

theorem firstMisfit?_eq_none {number : Nat} {header : List Field} {rows : List (List Setting)}
    (fit : ∀ row ∈ rows, Fits header row) : firstMisfit? number header rows = none := by
  induction rows generalizing number with
  | nil => rfl
  | cons row rest ih =>
      obtain ⟨front, others⟩ := List.forall_mem_cons.mp fit
      rw [firstMisfit?, misfit?_eq_none.mpr front, ih others, Option.none_or]

theorem firstMisfit?_append {number : Nat} {header : List Field} {before : List (List Setting)}
    (fit : ∀ row ∈ before, Fits header row) (rest : List (List Setting)) :
    firstMisfit? number header (before ++ rest) =
      firstMisfit? (number + before.length) header rest := by
  induction before generalizing number with
  | nil => rfl
  | cons row before ih =>
      obtain ⟨front, others⟩ := List.forall_mem_cons.mp fit
      rw [List.cons_append, firstMisfit?, misfit?_eq_none.mpr front, Option.none_or, ih others,
        List.length_cons, Nat.add_assoc, Nat.add_comm 1]

/-- Settings on a new INSERT, perhaps behind its columns, where each column that is set is the same
expression as itself, as every plain column is. If every row sets the columns of the header, it is
the INSERT of the header and of the values first set in each row, in the order of the header. Else
the first row that does not is left out and is what every later attempt to build reports. -/
theorem settings_agree_with_values (table : Table) (given : Option (List Field))
    (list : List Call) (setters : ∀ c ∈ list, c.OfSettings)
    (distinct : ∀ header ∈ given, Distinct header)
    (own : ∀ row ∈ list.flatMap Call.settingRows, ∀ s ∈ row, s.column.sameExpr s.column = true) :
    let rows := list.flatMap Call.settingRows
    let header := headerOf given rows
    let i := (into table).calls (given.toList.map .columns ++ list)
    ((∀ row ∈ rows, Fits header row) →
      i = (into table).calls
        (.columns header :: (rows.map (inOrder header)).map .values)) ∧
    ∀ before bad after, rows = before ++ bad :: after → (∀ row ∈ before, Fits header row) →
      ¬ Fits header bad →
        ∃ fault, misfit? (before.length + 1) header bad = some fault ∧ i.fault = some fault ∧
          i.rows = ((before ++ after).filter (Fits header ·)).map (inOrder header) ∧
          ∀ (later : List Call) (d : Dialect), (Query.insert (i.calls later)).build d =
            .error (.render ("INSERT INTO `" ++ table.name ++ "`") fault.message) := by
  intro rows header i
  have whole : i = { into table with
      columns := header
      rows := (rows.filter (Fits header ·)).map (inOrder header)
      fault := firstMisfit? 1 header rows } := by
    have joined : i = ((into table).calls (given.toList.map .columns)).calls list :=
      List.foldl_append
    rw [joined, calls_ofSettings setters]
    exact foldl_fresh distinct rows own
  constructor
  · intro fit
    have filled : ∀ row ∈ rows.map (inOrder header), row.length = header.length := by
      intro values member
      obtain ⟨row, present, rfl⟩ := List.mem_map.mp member
      exact (fit row present).length_inOrder
    have explicit := calls_values (i := { into table with columns := header }) filled
    have all : rows.filter (Fits header ·) = rows :=
      List.filter_eq_self.mpr fun row member => decide_eq_true (fit row member)
    rw [whole, all, firstMisfit?_eq_none fit]
    exact explicit.symm
  · intro before bad after split fit misfit
    obtain ⟨fault, wrong⟩ : ∃ fault, misfit? (before.length + 1) header bad = some fault :=
      Option.ne_none_iff_exists'.mp fun fits => misfit (misfit?_eq_none.mp fits)
    have found : i.fault = some fault := by
      rw [whole, split, firstMisfit?_append fit, firstMisfit?, Nat.add_comm, wrong]
      rfl
    refine ⟨fault, wrong, found, ?_, fun later d => ?_⟩
    · rw [whole, split]
      simp [misfit]
    · have kept := Keeps.calls (i := i) later
      have named : (i.calls later).table = table := kept.table.trans (by rw [whole]; rfl)
      rw [build_of_fault (kept.fault fault found) d, named]

end Fresh

/-- Two cats, the second in another order and with a name too many. -/
def namedCats : List Call :=
  [.settings [.set (.bare "id") (.value (.int 1)), .set (.bare "name") (.value (.text "Tom"))],
    .settingsEach [[.set (.bare "name") (.value (.text "Kit")), .set (.bare "id") (.value (.int 2)),
      .set (.bare "name") (.value .null)]]]

theorem settings_agree_with_values_cats :
    let nameless : List Call := namedCats ++ [.settings [.set (.bare "id") (.value (.int 3))]]
    let i := (into (.named "cat")).calls nameless
    (∀ c ∈ nameless, c.OfSettings) ∧
      (into (.named "cat")).calls namedCats = (into (.named "cat")).calls
        [.columns [.bare "id", .bare "name"], .values [.value (.int 1), .value (.text "Tom")],
          .values [.value (.int 2), .value (.text "Kit")]] ∧
      i.rows = ((into (.named "cat")).calls namedCats).rows ∧
      ∀ (later : List Call) (d : Dialect), (Query.insert (i.calls later)).build d =
        .error (.render "INSERT INTO `cat`" "row 3 does not set column `name`") := by
  intro nameless i
  have setters : ∀ c ∈ nameless, c.OfSettings := by
    simp [nameless, namedCats, Call.OfSettings]
  have none_given : ∀ header ∈ (none : Option (List Field)), Distinct header := nofun
  have own : ∀ row ∈ nameless.flatMap Call.settingRows, ∀ s ∈ row,
      s.column.sameExpr s.column = true := by
    have named : ∀ row ∈ nameless.flatMap Call.settingRows, ∀ s ∈ row,
        s.column.expr.columnName?.isSome = true := by decide
    exact fun row member s set => Field.sameExpr_self_of_columnName? (named row member s set)
  have header : headerOf none (namedCats.flatMap Call.settingRows) =
      [.bare "id", .bare "name"] := by cbv
  have sameHeader : headerOf none (nameless.flatMap Call.settingRows) =
      [.bare "id", .bare "name"] := by cbv
  have fit : ∀ row ∈ namedCats.flatMap Call.settingRows,
      Fits [.bare "id", .bare "name"] row := by decide +kernel
  have values : (namedCats.flatMap Call.settingRows).map (inOrder [.bare "id", .bare "name"]) =
      [[.value (.int 1), .value (.text "Tom")], [.value (.int 2), .value (.text "Kit")]] := by cbv
  have agree := (settings_agree_with_values (.named "cat") none namedCats
    (fun c member => setters c (List.mem_append_left _ member)) none_given
    (fun row member => own row (by
      rw [List.flatMap_append]
      exact List.mem_append_left _ member))).1
  rw [header, values] at agree
  have refused := (settings_agree_with_values (.named "cat") none nameless setters none_given own).2
  rw [sameHeader] at refused
  obtain ⟨fault, wrong, -, rows, failing⟩ :=
    refused (namedCats.flatMap Call.settingRows) [.set (.bare "id") (.value (.int 3))] [] rfl fit
      (by decide +kernel)
  have missing : misfit? 3 [.bare "id", .bare "name"] [.set (.bare "id") (.value (.int 3))] =
      some (.missingColumn 3 "name") := by cbv
  obtain rfl : RowFault.missingColumn 3 "name" = fault :=
    Option.some.inj (missing.symm.trans wrong)
  have all : (namedCats.flatMap Call.settingRows ++ []).filter
      (Fits [.bare "id", .bare "name"] ·) = namedCats.flatMap Call.settingRows := by
    rw [List.append_nil]
    exact List.filter_eq_self.mpr fun row member => decide_eq_true (fit row member)
  rw [all, values] at rows
  refine ⟨setters, agree fit, ?_, failing⟩
  exact rows.trans (congrArg Insert.rows (agree fit)).symm

/-- Columns given as an empty list are none: the first row is then no misfit but brings its own. -/
theorem empty_header_inferred :
    let row : List Setting := [.set (.bare "id") (.value (.int 1))]
    let i := (into (.named "cat")).calls [.columns [], .settings row]
    Distinct [] ∧ ¬ Fits [] row ∧ i.fault = none ∧ i.rows = [[.value (.int 1)]] ∧
      (Query.insert i).build .sqlite = .ok ⟨"INSERT INTO cat (id) VALUES (?)", [.int 1]⟩ := by
  intro row i
  refine ⟨.nil, by decide +kernel, rfl, rfl, ?_⟩
  cbv

end Insert

end SqlTree
