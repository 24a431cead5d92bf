import Mathlib.Data.List.Nodup
import SqlTree.Proofs.Renderer.Numbering
import SqlTree.Proofs.Renderer.Splicing
import SqlTree.Proofs.Renderer.Written

/-!
One renderer used again and again, also behind a fault. At every point on the way its text, its
arguments and its names are those from before with more behind them, and each name has a number of
its own, at which the value stands that the name was given with first.
-/

namespace SqlTree

/-- The names of shared arguments with the values that they are given with, in the order in which
they are written. -/
def Piece.offers (pieces : List Piece) : List (String × Value) :=
  pieces.filterMap fun
    | .shared name v => some (name, v)
    | .text _ | .value _ => none

namespace Renderer

def Step.script (d : Dialect) : Step → Script
  | .push text => .text text
  | .ident name => .ident d name
  | .bind v => .ofPiece (.value v)
  | .bindShared name v => .ofPiece (.shared name v)
  | .append t => t.script d
  | .outputs fields bare => .separated ", " (Field.outputs d bare fields)
  | .orderings fields => .separated ", " (Field.orderings d fields)

def Step.pieces (d : Dialect) (steps : List Step) : List Piece :=
  steps.flatMap fun step => (step.script d).pieces

theorem Step.pieces_cons (d : Dialect) (step : Step) (rest : List Step) :
    Step.pieces d (step :: rest) = (step.script d).pieces ++ Step.pieces d rest :=
  List.flatMap_cons

theorem Step.render_writes (step : Step) (d : Dialect) :
    Rendering.Writes d step.render (step.script d) := by
  cases step with
  | push text => exact .text text
  | ident name => exact .ident name
  | bind v => exact .value v
  | bindShared name v => exact .shared name v
  | append t => exact t.render_writes d
  | outputs fields bare =>
      have each : ∀ f ∈ fields, NodeProperty.writes.field f := fun f _ => f.render_writes
      exact .separated ", " (Rendering.Writes.outputs bare each)
  | orderings fields =>
      have each : ∀ f ∈ fields, NodeProperty.writes.field f := fun f _ => f.render_writes
      exact .separated ", " (Rendering.Writes.orderings each)

theorem take_eq (r : Renderer) (step : Step) :
    r.take step = (r.write (step.script r.dialect), (step.script r.dialect).fault) :=
  step.render_writes r.dialect r rfl

theorem run_eq (r : Renderer) (steps : List Step) :
    r.run steps = r.writePieces (Step.pieces r.dialect steps) := by
  induction steps generalizing r with
  | nil => rfl
  | cons step rest ih =>
      have others := ih (r.write (step.script r.dialect))
      rw [write_dialect] at others
      calc
        r.run (step :: rest) = ((r.take step).1).run rest := rfl
        _ = (r.write (step.script r.dialect)).writePieces (Step.pieces r.dialect rest) := by
          rw [take_eq, others]
        _ = r.writePieces (Step.pieces r.dialect (step :: rest)) := by
          rw [Step.pieces_cons, writePieces_append]
          rfl

structure Extends (r s : Renderer) : Prop where
  sql : ∃ text, s.sql = r.sql ++ text
  args : r.args <+: s.args
  numbers : r.numbers <+: s.numbers

theorem extends_writePieces (r : Renderer) (pieces : List Piece) :
    r.Extends (r.writePieces pieces) := by
  refine ⟨⟨_, r.writePieces_sql pieces⟩, r.args_prefix pieces, ?_⟩
  induction pieces generalizing r with
  | nil => exact List.prefix_rfl
  | cons p rest ih =>
      have first : r.numbers <+: (r.put p).numbers := by
        rw [put_numbers]
        exact List.prefix_append _ _
      exact first.trans (ih (r.put p))

theorem positional_numbers {r : Renderer} (positional : r.dialect.numbered = false)
    (nameless : r.numbers = []) (pieces : List Piece) : (r.writePieces pieces).numbers = [] := by
  induction pieces generalizing r with
  | nil => exact nameless
  | cons p rest ih =>
      apply ih (by rw [put_dialect, positional])
      cases p <;> simp [nameless, named, positional]

/-- The entries of a renderer that has been given pieces: for every name given so far a number of
its own, at which the value stands that the name was given with first. -/
structure Tracks (r : Renderer) (given : List Piece) : Prop where
  names : (r.numbers.map Prod.fst).Nodup
  numbers : (r.numbers.map Prod.snd).Nodup
  bounds : ∀ entry ∈ r.numbers, 1 ≤ entry.2 ∧ entry.2 ≤ r.args.length
  known : ∀ name, name ∈ r.numbers.map Prod.fst ↔ name ∈ (Piece.offers given).map Prod.fst
  first : ∀ entry ∈ r.numbers, r.args[entry.2 - 1]? = (Piece.offers given).lookup entry.1

theorem tracks_new (d : Dialect) : (new d).Tracks [] where
  names := List.nodup_nil
  numbers := List.nodup_nil
  bounds := List.forall_mem_nil _
  known _ := Iff.rfl
  first := List.forall_mem_nil _

theorem offers_append (given : List Piece) (p : Piece) :
    Piece.offers (given ++ [p]) = Piece.offers given ++ Piece.offers [p] := List.filterMap_append

theorem lookup_eq_none_iff {β : Type} {entries : List (String × β)} {name : String} :
    entries.lookup name = none ↔ name ∉ entries.map Prod.fst := by
  rw [List.lookup_eq_none_iff, List.mem_map]
  constructor
  · rintro absent ⟨entry, member, rfl⟩
    exact bne_iff_ne.mp (absent entry member) rfl
  · intro absent entry member
    exact bne_iff_ne.mpr fun same => absent ⟨entry, member, same.symm⟩

theorem Tracks.offered {r : Renderer} {given : List Piece} (tracks : r.Tracks given)
    {entry : String × Nat} (member : entry ∈ r.numbers) :
    ((Piece.offers given).lookup entry.1).isSome := by
  rw [Option.isSome_iff_ne_none]
  intro absent
  exact lookup_eq_none_iff.mp absent ((tracks.known entry.1).mp (List.mem_map_of_mem member))

section Put

variable {r s : Renderer} {given : List Piece} {p : Piece} (tracks : r.Tracks given)

include tracks

theorem Tracks.kept (numbers : s.numbers = r.numbers) (args : r.args <+: s.args)
    (old : ∀ offer ∈ Piece.offers [p], offer.1 ∈ r.numbers.map Prod.fst) :
    s.Tracks (given ++ [p]) := by
  obtain ⟨added, whole⟩ := args
  constructor <;> rw [numbers]
  case names => exact tracks.names
  case numbers => exact tracks.numbers
  case bounds =>
    intro entry member
    have := tracks.bounds entry member
    rw [← whole, List.length_append]
    omega
  case known =>
    intro name
    rw [offers_append, List.map_append, List.mem_append, ← tracks.known]
    refine ⟨.inl, fun either => either.elim id fun new => ?_⟩
    obtain ⟨offer, present, rfl⟩ := List.mem_map.mp new
    exact old offer present
  case first =>
    intro entry member
    have bounds := tracks.bounds entry member
    rw [offers_append, List.lookup_append, Option.or_of_isSome (tracks.offered member),
      ← tracks.first entry member, ← whole, List.getElem?_append_left (by omega)]

theorem Tracks.added {name : String} {v : Value} (unknown : name ∉ r.numbers.map Prod.fst)
    (offer : Piece.offers [p] = [(name, v)])
    (numbers : s.numbers = r.numbers ++ [(name, r.args.length + 1)])
    (args : s.args = r.args ++ [v]) : s.Tracks (given ++ [p]) := by
  have fresh : name ∉ (Piece.offers given).map Prod.fst := mt (tracks.known name).mpr unknown
  have beyond : r.args.length + 1 ∉ r.numbers.map Prod.snd := by
    intro taken
    obtain ⟨entry, member, same⟩ := List.mem_map.mp taken
    have := tracks.bounds entry member
    omega
  constructor <;> rw [numbers]
  case names =>
    rw [List.map_append]
    exact tracks.names.append (List.nodup_singleton _) (List.disjoint_singleton.mpr unknown)
  case numbers =>
    rw [List.map_append]
    exact tracks.numbers.append (List.nodup_singleton _) (List.disjoint_singleton.mpr beyond)
  case bounds =>
    intro entry member
    rw [args, List.length_append, List.length_singleton]
    rcases List.mem_append.mp member with old | new
    · have := tracks.bounds entry old
      omega
    · obtain rfl := List.mem_singleton.mp new
      omega
  case known =>
    intro other
    rw [offers_append, offer, List.map_append, List.map_append, List.mem_append, List.mem_append,
      tracks.known]
    rfl
  case first =>
    intro entry member
    rw [offers_append, offer, List.lookup_append, args]
    rcases List.mem_append.mp member with old | new
    · have bounds := tracks.bounds entry old
      rw [Option.or_of_isSome (tracks.offered old), ← tracks.first entry old,
        List.getElem?_append_left (by omega)]
    · obtain rfl := List.mem_singleton.mp new
      simp [lookup_eq_none_iff.mpr fresh]

end Put

theorem Tracks.put {r : Renderer} {given : List Piece} (tracks : r.Tracks given)
    (numbered : r.dialect.numbered = true) (p : Piece) : (r.put p).Tracks (given ++ [p]) := by
  have grown : r.args <+: (r.put p).args := r.args_prefix [p]
  cases p with
  | text s => exact tracks.kept (put_text rfl).2 grown (List.forall_mem_nil _)
  | value v =>
      refine tracks.kept ?_ grown (List.forall_mem_nil _)
      rw [put_numbers]
      exact List.append_nil _
  | shared name v =>
      rcases put_slot numbered (p := .shared name v) rfl with
        ⟨other, same, found, -, numbers⟩ | ⟨unknown, -, args, numbers⟩
      · obtain rfl := Option.some.inj same
        refine tracks.kept numbers grown fun offer present => ?_
        obtain rfl := List.mem_singleton.mp present
        by_contra absent
        exact nomatch (lookup_eq_none_iff.mpr absent).symm.trans found
      · exact tracks.added (lookup_eq_none_iff.mp (unknown name rfl)) rfl numbers args

theorem Tracks.writePieces {r : Renderer} {given : List Piece} (tracks : r.Tracks given)
    (numbered : r.dialect.numbered = true) (pieces : List Piece) :
    (r.writePieces pieces).Tracks (given ++ pieces) := by
  induction pieces generalizing r given with
  | nil => simpa [Renderer.writePieces] using tracks
  | cons p rest ih =>
      have later := ih (tracks.put numbered p) (by rw [put_dialect, numbered])
      rw [List.append_assoc] at later
      exact later

/-- A renderer that has been used for any steps, failed ones too, at any point of what the next step
writes. It has what it had before the step with more behind it, and the end of the step, whether or
not it fails, has still more. A positional dialect keeps no names. In a numbered one every name
given so far, and no other, has a number of its own, of an argument that is there, and that argument
is the value that the name was given with first. -/
theorem names_tracked (d : Dialect) (steps : List Step) (step : Step) {written : List Piece}
    (part : written <+: (step.script d).pieces) :
    let before := (new d).run steps
    let now := before.writePieces written
    let after := (before.take step).1
    after = before.writePieces (step.script d).pieces ∧ before.Extends now ∧ now.Extends after ∧
      (d ≠ .postgres → now.numbers = []) ∧
      (d = .postgres → now.Tracks (Step.pieces d steps ++ written)) := by
  intro before now after
  obtain ⟨rest, whole⟩ := part
  have start : before = (new d).writePieces (Step.pieces d steps) := (new d).run_eq steps
  have dialect : before.dialect = d := by
    rw [start]
    exact write_dialect (new d) ⟨Step.pieces d steps, none⟩
  have reached : now = (new d).writePieces (Step.pieces d steps ++ written) := by
    rw [writePieces_append, ← start]
  have finished : after = before.writePieces (step.script d).pieces := by
    rw [← dialect]
    exact congrArg Prod.fst (before.take_eq step)
  refine ⟨finished, before.extends_writePieces written, ?_, fun other => ?_, fun postgres => ?_⟩
  · rw [finished, ← whole, writePieces_append]
    exact now.extends_writePieces rest
  · have positional : (new d).dialect.numbered = false := by
      cases d with
      | postgres => exact absurd rfl other
      | sqlite => rfl
      | mysql => rfl
    rw [reached]
    exact positional_numbers positional rfl _
  · subst postgres
    rw [reached]
    exact (tracks_new .postgres).writePieces rfl _

/-- A template with an operand too many is written as far as its slot, and its name keeps the value
given there when the renderer goes on. -/
theorem names_tracked_behind_fault :
    let surplus := Field.template "?" [.shared "a" (.int 1), .shared "b" (.int 2)]
    let steps : List Step := [.append (.field surplus []), .bindShared "a" (.int 9)]
    let step : Step := .append
      (.predicate (.compare (.shared "b" (.int 3)) .eq (.shared "a" (.int 4))) [] none)
    let before := (new .postgres).run steps
    let now := before.writePieces [.shared "b" (.int 3)]
    ((new .postgres).take (.append (.field surplus []))).2.isSome ∧ before.sql = "$1$1" ∧
      [.shared "b" (.int 3)] <+: (step.script .postgres).pieces ∧
      now.sql = "$1$1$2" ∧ now.args = [.int 1, .int 3] ∧
      now.Tracks (Step.pieces .postgres steps ++ [.shared "b" (.int 3)]) ∧
      now.Extends (before.take step).1 ∧
      ((new .mysql).run steps).numbers = [] := by
  intro surplus steps step before now
  have part : [.shared "b" (.int 3)] <+: (step.script .postgres).pieces := ⟨_, rfl⟩
  obtain ⟨-, -, more, -, tracks⟩ := names_tracked .postgres steps step part
  have nameless := (names_tracked .mysql steps step List.nil_prefix).2.2.2.1 (by decide)
  exact ⟨rfl, rfl, part, by decide, rfl, tracks rfl, more, nameless⟩

end Renderer

end SqlTree
