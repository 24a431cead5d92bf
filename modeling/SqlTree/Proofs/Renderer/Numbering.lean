import SqlTree.Proofs.Renderer.Marks
import Mathlib.Data.List.Basic

/-!
Numbers of placeholders in a numbered dialect: they count the arguments in the order in which they
first occur, and two placeholders have one number exactly if they share a name.
-/

namespace SqlTree

def Slot.shares (a b : Slot) : Prop := ∃ name, a.1 = some name ∧ b.1 = some name

namespace Renderer

/-- Each name has a number of its own, of an argument that is there. -/
structure Consistent (r : Renderer) : Prop where
  bounds : ∀ name n, r.numbers.lookup name = some n → 1 ≤ n ∧ n ≤ r.args.length
  distinct : ∀ name other n, r.numbers.lookup name = some n → r.numbers.lookup other = some n →
    name = other

theorem consistent_new (d : Dialect) : (new d).Consistent where
  bounds _ _ found := nomatch found
  distinct _ _ _ found := nomatch found

theorem lookup_put (r : Renderer) (p : Piece) (name : String) :
    (r.put p).numbers.lookup name = (r.numbers.lookup name).or ((r.named p).lookup name) := by
  rw [put_numbers, List.lookup_append]

theorem lookup_named {r : Renderer} {p : Piece} {name : String} {n : Nat}
    (found : (r.named p).lookup name = some n) :
    (∃ v, p = .shared name v) ∧ n = r.args.length + 1 ∧ r.numbers.lookup name = none ∧
      r.dialect.numbered = true := by
  cases p with
  | text s => simp [named] at found
  | value v => simp [named] at found
  | shared other v =>
      simp only [named] at found
      split at found
      · next new =>
        rw [List.lookup_cons] at found
        split at found
        · next same =>
          obtain rfl : name = other := eq_of_beq same
          simp only [Bool.and_eq_true, Option.isNone_iff_eq_none] at new
          exact ⟨⟨v, rfl⟩, (Option.some.inj found).symm, new.2, new.1⟩
        · simp at found
      · simp at found

theorem bound_of_named {r : Renderer} {p : Piece} {name : String} {n : Nat}
    (found : (r.named p).lookup name = some n) : ∃ v, r.bound p = [v] := by
  obtain ⟨⟨v, rfl⟩, _, absent, _⟩ := lookup_named found
  exact ⟨v, by simp [bound, absent]⟩

theorem Consistent.put {r : Renderer} (consistent : r.Consistent) (p : Piece) :
    (r.put p).Consistent := by
  have known : ∀ name n, (r.put p).numbers.lookup name = some n →
      r.numbers.lookup name = some n ∨ (r.named p).lookup name = some n := by
    intro name n found
    rw [lookup_put, Option.or_eq_some_iff] at found
    exact found.imp id And.right
  have grown : r.args.length ≤ (r.put p).args.length := by simp
  refine ⟨fun name n found => ?_, fun name other n found found' => ?_⟩
  · rcases known name n found with old | new
    · have := consistent.bounds name n old
      omega
    · obtain ⟨_, rfl, _⟩ := lookup_named new
      obtain ⟨v, added⟩ := bound_of_named new
      simp [added]
  · rcases known name n found with old | new <;> rcases known other n found' with old' | new'
    · exact consistent.distinct name other n old old'
    · have := (consistent.bounds name n old).2
      have := (lookup_named new').2.1
      omega
    · have := (consistent.bounds other n old').2
      have := (lookup_named new).2.1
      omega
    · obtain ⟨⟨v, rfl⟩, _⟩ := lookup_named new
      obtain ⟨⟨v', same⟩, _⟩ := lookup_named new'
      exact (Piece.shared.inj same).1

theorem Consistent.writePieces {r : Renderer} (consistent : r.Consistent) (pieces : List Piece) :
    (r.writePieces pieces).Consistent := by
  induction pieces generalizing r with
  | nil => exact consistent
  | cons p rest ih => exact ih (consistent.put p)

def nextNumber (r : Renderer) (slot : Slot) : Nat :=
  match slot.1 with
  | none => r.args.length + 1
  | some name => r.numberOf name

def placed (r : Renderer) : List Piece → List (Slot × Nat)
  | [] => []
  | p :: rest => (p.slot?.toList.map fun slot => (slot, r.nextNumber slot)) ++ (r.put p).placed rest

theorem placed_slots (r : Renderer) (pieces : List Piece) :
    (r.placed pieces).map Prod.fst = Piece.slots pieces := by
  induction pieces generalizing r with
  | nil => rfl
  | cons p rest ih => cases p <;> simp [placed, Piece.slot?, ih]

theorem placed_numbers {r : Renderer} (numbered : r.dialect.numbered = true)
    (pieces : List Piece) :
    (r.placed pieces).map Prod.snd = Mark.numbers (r.marks pieces) := by
  induction pieces generalizing r with
  | nil => rfl
  | cons p rest ih =>
      have others := ih (r := r.put p) (by rw [put_dialect, numbered])
      simp only [placed, List.map_append, others]
      cases p <;> simp [marks, mark, numbered, Piece.slot?, nextNumber]

theorem put_text {r : Renderer} {p : Piece} (no : p.slot? = none) :
    (r.put p).args = r.args ∧ (r.put p).numbers = r.numbers := by
  cases p with
  | text s => simp [bound, named]
  | value v => simp [Piece.slot?] at no
  | shared name v => simp [Piece.slot?] at no

/-- A placeholder either has a name with a number, and changes nothing, or it gets the next number
and binds its value. -/
theorem put_slot {r : Renderer} (numbered : r.dialect.numbered = true) {p : Piece} {slot : Slot}
    (is : p.slot? = some slot) :
    (∃ name, slot.1 = some name ∧ r.numbers.lookup name = some (r.nextNumber slot) ∧
      (r.put p).args = r.args ∧ (r.put p).numbers = r.numbers) ∨
    ((∀ name, slot.1 = some name → r.numbers.lookup name = none) ∧
      r.nextNumber slot = r.args.length + 1 ∧ (r.put p).args = r.args ++ [slot.2] ∧
      (r.put p).numbers = r.numbers ++ slot.1.toList.map fun name => (name, r.args.length + 1)) := by
  cases p with
  | text s => simp [Piece.slot?] at is
  | value v =>
      obtain rfl : (none, v) = slot := Option.some.inj is
      exact .inr (by simp [nextNumber, bound, named])
  | shared name v =>
      obtain rfl : (some name, v) = slot := Option.some.inj is
      cases known : r.numbers.lookup name with
      | some n =>
          refine .inl ⟨name, rfl, ?_⟩
          simp [nextNumber, numberOf, bound, named, numbered, known]
      | none =>
          refine .inr ⟨fun other same => by rw [← Option.some.inj same, known], ?_⟩
          simp [nextNumber, numberOf, bound, named, numbered, known]

/-- Where a renderer may place a slot later on: at the number of its name, or behind all
arguments. -/
def Places (r : Renderer) (slot : Slot) (n : Nat) : Prop :=
  (∃ name, slot.1 = some name ∧ r.numbers.lookup name = some n) ∨
    ((∀ name, slot.1 = some name → r.numbers.lookup name = none) ∧ r.args.length < n)

theorem Places.of_put {r : Renderer} {p : Piece} {slot : Slot} {n : Nat}
    (later : (r.put p).Places slot n) : r.Places slot n := by
  rcases later with ⟨name, same, found⟩ | ⟨unknown, beyond⟩
  · rw [lookup_put, Option.or_eq_some_iff] at found
    rcases found with old | ⟨absent, new⟩
    · exact .inl ⟨name, same, old⟩
    · refine .inr ⟨fun other also => ?_, by have := (lookup_named new).2.1; omega⟩
      rw [← Option.some.inj (same.symm.trans also), absent]
  · refine .inr ⟨fun name same => ?_, by rw [put_args, List.length_append] at beyond; omega⟩
    have absent := unknown name same
    rw [lookup_put, Option.or_eq_none_iff] at absent
    exact absent.1

theorem places_next {r : Renderer} (numbered : r.dialect.numbered = true) {p : Piece} {slot : Slot}
    (is : p.slot? = some slot) : r.Places slot (r.nextNumber slot) := by
  rcases put_slot numbered is with ⟨name, same, found, _⟩ | ⟨unknown, next, _⟩
  · exact .inl ⟨name, same, found⟩
  · exact .inr ⟨unknown, by omega⟩

theorem places_placed {r : Renderer} (numbered : r.dialect.numbered = true) (pieces : List Piece) :
    ∀ entry ∈ r.placed pieces, r.Places entry.1 entry.2 := by
  induction pieces generalizing r with
  | nil => exact List.forall_mem_nil _
  | cons p rest ih =>
      intro entry member
      rcases List.mem_append.mp member with here | later
      · obtain ⟨slot, is, rfl⟩ := List.mem_map.mp here
        exact places_next numbered (Option.mem_toList.mp is)
      · exact (ih (by rw [put_dialect, numbered]) entry later).of_put

theorem Places.eq_iff_shares {r : Renderer} {slot later : Slot} {n n' : Nat}
    (bound : n ≤ r.args.length)
    (owned : ∀ name, r.numbers.lookup name = some n ↔ slot.1 = some name)
    (places : r.Places later n') : n = n' ↔ slot.shares later := by
  rcases places with ⟨name, same, found⟩ | ⟨unknown, beyond⟩
  · constructor
    · rintro rfl
      exact ⟨name, (owned name).mp found, same⟩
    · rintro ⟨other, own, also⟩
      obtain rfl : name = other := Option.some.inj (same.symm.trans also)
      have here := (owned name).mpr own
      exact Option.some.inj (here.symm.trans found)
  · constructor
    · intro equal
      omega
    · rintro ⟨name, own, also⟩
      have known := (owned name).mpr own
      rw [unknown name also] at known
      exact nomatch known

theorem owned_next {r : Renderer} (consistent : r.Consistent)
    (numbered : r.dialect.numbered = true) {p : Piece} {slot : Slot} (is : p.slot? = some slot) :
    r.nextNumber slot ≤ (r.put p).args.length ∧
      ∀ name, (r.put p).numbers.lookup name = some (r.nextNumber slot) ↔ slot.1 = some name := by
  rcases put_slot numbered is with ⟨name, same, found, args, numbers⟩ | ⟨unknown, next, args, numbers⟩
  · rw [args, numbers]
    refine ⟨(consistent.bounds name _ found).2, fun other => ⟨fun also => ?_, fun also => ?_⟩⟩
    · rw [same, consistent.distinct name other _ found also]
    · rw [← Option.some.inj (same.symm.trans also), found]
  · rw [args, numbers, next]
    refine ⟨by simp, fun name => ?_⟩
    rw [List.lookup_append]
    constructor
    · intro found
      rcases Option.or_eq_some_iff.mp found with old | ⟨_, new⟩
      · have := (consistent.bounds name _ old).2
        omega
      · cases own : slot.1 with
        | none => simp [own] at new
        | some other =>
            simp only [own, Option.toList_some, List.map_cons, List.map_nil, List.lookup_cons] at new
            split at new
            · next same => rw [eq_of_beq same]
            · simp at new
    · intro own
      rw [unknown name own, own]
      simp

/-- Two placeholders have one number exactly if they share a name. -/
theorem placed_pairwise {r : Renderer} (consistent : r.Consistent)
    (numbered : r.dialect.numbered = true) (pieces : List Piece) :
    (r.placed pieces).Pairwise fun a b => a.2 = b.2 ↔ a.1.shares b.1 := by
  induction pieces generalizing r with
  | nil => exact List.Pairwise.nil
  | cons p rest ih =>
      have still : (r.put p).dialect.numbered = true := by rw [put_dialect, numbered]
      have others := ih (consistent.put p) still
      cases is : p.slot? with
      | none => simpa [placed, is] using others
      | some slot =>
          obtain ⟨bound, owned⟩ := owned_next consistent numbered is
          have entries : r.placed (p :: rest) =
              (slot, r.nextNumber slot) :: (r.put p).placed rest := by simp [placed, is]
          rw [entries]
          refine List.pairwise_cons.mpr ⟨fun entry member => ?_, others⟩
          exact (places_placed still rest entry member).eq_iff_shares bound owned

theorem placed_first_occurrences {r : Renderer} (consistent : r.Consistent)
    (numbered : r.dialect.numbered = true) (pieces : List Piece) (before : List Nat)
    (counted : before.eraseDups = List.range' 1 r.args.length) :
    (before ++ (r.placed pieces).map Prod.snd).eraseDups =
      List.range' 1 (r.writePieces pieces).args.length := by
  induction pieces generalizing r before with
  | nil => simpa [placed, Renderer.writePieces] using counted
  | cons p rest ih =>
      have still : (r.put p).dialect.numbered = true := by rw [put_dialect, numbered]
      rw [writePieces_cons]
      cases is : p.slot? with
      | none =>
          have step := ih (consistent.put p) still before (by rw [(put_text is).1, counted])
          simpa [placed, is] using step
      | some slot =>
          have here : (before ++ [r.nextNumber slot]).eraseDups =
              List.range' 1 (r.put p).args.length := by
            rw [List.eraseDups_append, counted]
            rcases put_slot numbered is with ⟨name, _, found, args, _⟩ | ⟨_, next, args, _⟩
            · obtain ⟨positive, inside⟩ := consistent.bounds name _ found
              have seen : r.nextNumber slot ∈ before := by
                rw [← List.mem_eraseDups, counted, List.mem_range'_1]
                omega
              rw [args]
              simp [List.removeAll, seen]
            · have unseen : r.nextNumber slot ∉ before := by
                rw [← List.mem_eraseDups, counted, List.mem_range'_1]
                omega
              rw [args, List.length_append, List.length_singleton, List.range'_1_concat, next,
                Nat.add_comm]
              rw [next, Nat.add_comm] at unseen
              simp [List.removeAll, unseen, List.eraseDups_cons]
          have step := ih (consistent.put p) still _ here
          simpa [placed, is] using step

/-- On a fresh renderer the numbers count the arguments by their first occurrences. -/
theorem new_first_occurrences {d : Dialect} (numbered : d.numbered = true) (pieces : List Piece) :
    (Mark.numbers ((new d).marks pieces)).eraseDups =
      List.range' 1 ((new d).writePieces pieces).args.length := by
  rw [← placed_numbers (r := new d) numbered]
  exact placed_first_occurrences (consistent_new d) numbered pieces [] rfl

/-- The arguments hold the value of each name at its number. -/
def Holds (r : Renderer) (valueOf : String → Value) : Prop :=
  ∀ name n, r.numbers.lookup name = some n → r.args[n - 1]? = some (valueOf name)

theorem Holds.put {r : Renderer} {valueOf : String → Value} (holds : r.Holds valueOf) {p : Piece}
    (named : ∀ slot ∈ p.slot?, ∀ name ∈ slot.1, slot.2 = valueOf name) :
    (r.put p).Holds valueOf := by
  intro name n found
  rw [lookup_put, Option.or_eq_some_iff] at found
  rcases found with old | ⟨_, new⟩
  · exact arg_kept (holds name n old) [p]
  · obtain ⟨⟨v, rfl⟩, rfl, absent, _⟩ := lookup_named new
    have value : v = valueOf name := named (some name, v) rfl name rfl
    simp [bound, absent, value]

/-- If every name stands for one value, each placeholder finds its value at its number. -/
theorem placed_args {r : Renderer} {valueOf : String → Value} (holds : r.Holds valueOf)
    (numbered : r.dialect.numbered = true) (pieces : List Piece)
    (named : ∀ slot ∈ Piece.slots pieces, ∀ name ∈ slot.1, slot.2 = valueOf name) :
    ∀ entry ∈ r.placed pieces, (r.writePieces pieces).args[entry.2 - 1]? = some entry.1.2 := by
  induction pieces generalizing r with
  | nil => exact List.forall_mem_nil _
  | cons p rest ih =>
      have still : (r.put p).dialect.numbered = true := by rw [put_dialect, numbered]
      have own : ∀ slot ∈ p.slot?, ∀ name ∈ slot.1, slot.2 = valueOf name := by
        intro slot is
        exact named slot (by simp [Piece.slots, Option.mem_def.mp is])
      have others := ih (holds.put own) still fun slot member => named slot (by
        simp only [Piece.slots, List.filterMap_cons]
        split
        · exact member
        · exact List.mem_cons_of_mem _ member)
      intro entry member
      rcases List.mem_append.mp member with here | later
      · obtain ⟨slot, is, rfl⟩ := List.mem_map.mp here
        have is : p.slot? = some slot := Option.mem_toList.mp is
        have read : (r.put p).args[r.nextNumber slot - 1]? = some slot.2 := by
          rcases put_slot numbered is with ⟨name, same, found, args, _⟩ | ⟨_, next, args, _⟩
          · rw [args, holds name _ found, own slot is name same]
          · rw [args, next]
            simp
        exact arg_kept read rest
      · exact others entry later

end Renderer

end SqlTree
