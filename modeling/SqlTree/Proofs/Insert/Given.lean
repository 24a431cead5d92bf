import Mathlib.Data.List.Forall2
import SqlTree.Build.Insert

namespace SqlTree.Insert

inductive Given where
  | values (list : List Field)
  | settings (list : List Setting)

/-- A setting is for the column that it names, or for one with the same expression. -/
def Sets (column : Field) (a : Assignment) : Prop :=
  a.target = column ∨ column.sameExpr a.target = true

def Arranged (columns : List Field) (settings : List Assignment) (row : List Field) : Prop :=
  List.Forall₂ (fun column value => ∃ a ∈ settings, Sets column a ∧ a.value = value) columns row

/-- The row that a given one makes for the columns: the values as they are, or for each column what
is set for it, where nothing is set but for the columns. -/
def Given.Fills (columns : List Field) : Given → List Field → Prop
  | .values list, row => row = list ∧ list.length = columns.length
  | .settings list, row =>
      Arranged columns (Setting.collect list) row ∧
      ∀ a ∈ Setting.collect list, ∃ column ∈ columns, Sets column a

theorem Given.Fills.length_eq {columns row : List Field} {g : Given} (fills : g.Fills columns row) :
    row.length = columns.length := by
  cases g with
  | values list =>
      obtain ⟨rfl, same⟩ := fills
      exact same
  | settings list => exact fills.1.length_eq.symm

def Call.rows : Call → List Given
  | .values row => [.values row]
  | .settings row => [.settings row]
  | .settingsEach rows => rows.map .settings
  | .ctes _ | .columns _ | .source _ | .conflict _ | .returning _ => []

/-- The rows that calls give, in order, each with the columns that it is given for. -/
def given (i : Insert) : List Call → List (List Field × Given)
  | [] => []
  | c :: rest => c.rows.map ((i.call c).columns, ·) ++ (i.call c).given rest

section Arrange

variable {columns row : List Field} {settings : List Assignment}

theorem strangers_eq_nil (known : strangers columns settings = []) :
    ∀ a ∈ settings, ∃ column ∈ columns, Sets column a := by
  intro a member
  have absent := List.filter_eq_nil_iff.mp known a member
  obtain ⟨column, present, same⟩ : ∃ column ∈ columns, column.sameExpr a.target = true := by
    simpa using absent
  exact ⟨column, present, .inr same⟩

theorem valueAt?_eq_some {position : Nat} {column value : Field}
    (there : columns[position]? = some column)
    (found : valueAt? columns settings position = some value) :
    ∃ a ∈ settings, Sets column a ∧ a.value = value := by
  obtain ⟨a, last, rfl⟩ := Option.map_eq_some_iff.mp found
  obtain ⟨member, first⟩ := List.mem_filter.mp (List.mem_of_getLast? last)
  obtain ⟨bound, rfl⟩ := List.getElem?_eq_some_iff.mp there
  obtain rfl := of_decide_eq_true first
  exact ⟨a, member, .inr (List.findIdx_getElem (w := bound)), rfl⟩

theorem forall₂_of_mapM {α β ε : Type} {f : α → Except ε β} {list : List α} {out : List β}
    (all : list.mapM f = .ok out) : List.Forall₂ (fun x y => f x = .ok y) list out := by
  induction list generalizing out with
  | nil =>
      obtain rfl : [] = out := Except.ok.inj all
      exact .nil
  | cons x rest ih =>
      rw [List.mapM_cons] at all
      cases first : f x with
      | error e =>
          rw [first] at all
          exact nomatch all
      | ok y =>
          cases others : rest.mapM f with
          | error e =>
              rw [first, others] at all
              exact nomatch all
          | ok ys =>
              rw [first, others] at all
              obtain rfl : y :: ys = out := Except.ok.inj all
              exact .cons first (ih others)

theorem arrange_eq_ok (arranged : arrange columns settings = .ok row) :
    Arranged columns settings row := by
  have each := forall₂_of_mapM arranged
  have placed : ∀ x ∈ columns.zipIdx, columns[x.2]? = some x.1 :=
    fun x member => List.mem_zipIdx_iff_getElem?.mp member
  have both := (List.forall₂_and_left _ _).mpr ⟨placed, each⟩
  have named : columns = columns.zipIdx.map Prod.fst := by simp
  rw [Arranged, named, List.forall₂_map_left_iff]
  refine both.imp ?_
  rintro ⟨column, position⟩ value ⟨there, ok⟩
  apply valueAt?_eq_some there
  cases found : valueAt? columns settings position with
  | none => simp [found] at ok
  | some other => simpa [found] using ok

end Arrange

/-- A row that is not refused stands behind those before it. Columns stay as they are once there
are columns or rows. -/
structure Taken (i : Insert) (rows : List Given) (next : Insert) : Prop where
  sound : i.fault = none
  fills : ∃ more, next.rows = i.rows ++ more ∧
    List.Forall₂ (fun g row => g.Fills next.columns row) rows more
  columns : i.rows ≠ [] ∨ i.columns ≠ [] → next.columns = i.columns

namespace Taken

variable {i : Insert}

theorem nothing (sound : i.fault = none) : Taken i [] i where
  sound := sound
  fills := ⟨[], (List.append_nil _).symm, .nil⟩
  columns _ := rfl

theorem addValues (row : List Field) (ok : (i.addValues row).fault = none) :
    Taken i [.values row] (i.addValues row) := by
  unfold Insert.addValues at ok ⊢
  split at ok
  case isTrue same =>
    rw [if_pos same]
    exact ⟨ok, ⟨[row], rfl, .cons ⟨rfl, same⟩ .nil⟩, fun _ => rfl⟩
  case isFalse differs =>
    cases known : i.fault <;> simp [Insert.fail, known] at ok

theorem addFirst {list : List Setting} (sound : i.fault = none) (noRows : i.rows = [])
    (noColumns : i.columns = []) :
    Taken i [.settings list]
      { i with
        columns := (Setting.collect list).map (·.target)
        rows := i.rows ++ [(Setting.collect list).map (·.value)] } where
  sound := sound
  fills := by
    have own : ∀ a ∈ Setting.collect list, ∃ x ∈ Setting.collect list,
        Sets a.target x ∧ x.value = a.value := fun a member => ⟨a, member, .inl rfl, rfl⟩
    refine ⟨_, rfl, .cons ⟨?_, ?_⟩ .nil⟩
    · rw [Arranged, List.forall₂_map_left_iff, List.forall₂_map_right_iff]
      exact List.forall₂_same.mpr own
    · intro a member
      exact ⟨a.target, List.mem_map_of_mem member, .inl rfl⟩
  columns begun := by
    rcases begun with some | some
    · exact absurd noRows some
    · exact absurd noColumns some

theorem addSettings {list : List Setting} (ok : (i.addSettings list).fault = none) :
    Taken i [.settings list] (i.addSettings list) := by
  have refused (fault : RowFault) : (i.fail fault).fault ≠ none := by
    cases known : i.fault <;> simp [Insert.fail, known]
  unfold Insert.addSettings Insert.addAssignments at ok ⊢
  split at ok
  case isTrue first =>
    rw [if_pos first]
    simp only [Bool.and_eq_true, List.isEmpty_iff] at first
    exact addFirst ok first.1 first.2
  case isFalse later =>
    rw [if_neg later]
    cases known : strangers i.columns (Setting.collect list) with
    | cons stranger others =>
        rw [known] at ok
        exact absurd ok (refused _)
    | nil =>
        cases arranged : arrange i.columns (Setting.collect list) with
        | error column =>
            rw [known, arranged] at ok
            exact absurd ok (refused _)
        | ok row =>
            rw [known, arranged] at ok
            exact ⟨ok, ⟨[row], rfl, .cons ⟨arrange_eq_ok arranged, strangers_eq_nil known⟩ .nil⟩,
              fun _ => rfl⟩

theorem addEach {rows : List (List Setting)} (ok : (rows.foldl Insert.addSettings i).fault = none) :
    Taken i (rows.map .settings) (rows.foldl Insert.addSettings i) := by
  induction rows generalizing i with
  | nil => exact nothing ok
  | cons list rest ih =>
      have later := ih ok
      have first := addSettings later.sound
      obtain ⟨row, added, fill⟩ := first.fills
      obtain ⟨more, addedMore, fillMore⟩ := later.fills
      have begun : (i.addSettings list).rows ≠ [] := by
        rw [added]
        cases fill
        simp
      have kept := later.columns (.inl begun)
      refine ⟨first.sound, ⟨row ++ more, ?_, ?_⟩, ?_⟩
      · rw [List.foldl_cons, addedMore, added, List.append_assoc]
      · rw [← kept] at fill
        exact List.rel_append fill fillMore
      · intro before
        exact kept.trans (first.columns before)

theorem call {c : Call} (ok : (i.call c).fault = none) :
    i.fault = none ∧ ∃ more, (i.call c).rows = i.rows ++ more ∧
      List.Forall₂ (fun g row => g.Fills (i.call c).columns row) c.rows more := by
  have taken {rows : List Given} (t : Taken i rows (i.call c)) := And.intro t.sound t.fills
  cases c with
  | values row => exact taken (addValues row ok)
  | settings row => exact taken (addSettings ok)
  | settingsEach rows => exact taken (addEach ok)
  | ctes list => exact ⟨ok, [], (List.append_nil _).symm, .nil⟩
  | columns list => exact ⟨ok, [], (List.append_nil _).symm, .nil⟩
  | source s => exact ⟨ok, [], (List.append_nil _).symm, .nil⟩
  | conflict c => exact ⟨ok, [], (List.append_nil _).symm, .nil⟩
  | returning list => exact ⟨ok, [], (List.append_nil _).symm, .nil⟩

end Taken

section Source

variable (i : Insert)

end Source

end SqlTree.Insert
