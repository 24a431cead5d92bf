import SqlTree.Proofs.Condition.Joined
import SqlTree.Proofs.Tree.Blank

/-!
What the text of a condition is put together from. Whatever its marks, a tree with a leaf writes the
texts of its leaves in their order, a connective only between two texts that are put together in the
same way and a negation only around one.
-/

namespace SqlTree

theorem Script.fault_text_append (k : String) (s : Script) : (text k ++ s).fault = s.fault := by
  rw [fault_append]
  rfl

namespace Renderer

theorem writeEach_append (r : Renderer) (a b : List Script) :
    r.writeEach (a ++ b) = (r.writeEach a).writeEach b := List.foldl_append

theorem writtenEach_append (r : Renderer) (a b : List Script) :
    r.writtenEach (a ++ b) = r.writtenEach a ++ (r.writeEach a).writtenEach b := by
  induction a generalizing r with
  | nil => rfl
  | cons s rest ih =>
      rw [List.cons_append, writtenEach, writtenEach, ih]
      rfl

end Renderer

namespace Condition

/-- A text put together from the texts of leaves, in their order. -/
inductive Composed : List (List Char) → List Char → Prop where
  | leaf (text : List Char) : Composed [text] text
  | negation {leaves : List (List Char)} {text : List Char} (inner : Composed leaves text) :
      Composed leaves ("NOT (".toList ++ (text ++ [')']))
  | parens {leaves : List (List Char)} {text : List Char} (inner : Composed leaves text) :
      Composed leaves ('(' :: (text ++ [')']))
  | joined {left right : List (List Char)} {first second : List Char} (op : Connective)
      (before : Composed left first) (behind : Composed right second) :
      Composed (left ++ right) (first ++ (op.separator.toList ++ second))

structure Filled (leaves : List (List Char)) (text : List Char) : Prop where
  composed : Composed leaves text
  each : ∀ leaf ∈ leaves, leaf ≠ []

theorem Filled.ne_nil {leaves : List (List Char)} {text : List Char}
    (filled : Filled leaves text) : text ≠ [] := by
  obtain ⟨composed, filled⟩ := filled
  induction composed with
  | leaf text => exact filled text List.mem_cons_self
  | negation inner ih => exact List.append_ne_nil_of_left_ne_nil (by decide) _
  | parens inner ih => exact List.cons_ne_nil _ _
  | joined op before behind ihBefore ihBehind =>
      have left := ihBefore fun leaf member => filled leaf (List.mem_append_left _ member)
      exact List.append_ne_nil_of_left_ne_nil left _

/-- Wherever a script is written, its text is put together from those of the leaves, and it binds
what they bind. -/
structure Composes (s : Script) (leaves : List Script) : Prop where
  text : ∀ r : Renderer, Composed (r.writtenEach leaves) (r.written s)
  behind : ∀ r : Renderer, (r.write s).untexted = (r.writeEach leaves).untexted

namespace Composes

variable {s : Script} {leaves : List Script}

theorem leaf (s : Script) : Composes s [s] where
  text r := .leaf (r.written s)
  behind _ := rfl

theorem negation (composes : Composes s leaves) (ok : s.fault = none) :
    Composes (.text "NOT (" ++ s ++ .text ")") leaves where
  text r := by
    have opened := (Script.fault_text_append "NOT (" s).trans ok
    rw [r.written_append_text opened, r.written_text_append, List.append_assoc]
    exact .negation (composes.text r)
  behind r := by
    have opened := (Script.fault_text_append "NOT (" s).trans ok
    rw [r.write_append opened, r.write_append rfl, Renderer.write_text, Renderer.write_text,
      Renderer.untexted_push, composes.behind]
    exact Renderer.writeEach_untexted (r.untexted_push _) leaves

theorem parens (composes : Composes s leaves) (ok : s.fault = none) :
    Composes (.parens s) leaves where
  text r := by
    rw [r.written_parens ok]
    exact .parens (composes.text r)
  behind r := (r.write_parens ok).trans (composes.behind r)

theorem joined {α : Type} {script : α → Script} {leaves : α → List Script} (op : Connective)
    {list : List α} (filled : list ≠ [])
    (each : ∀ x ∈ list, (script x).fault = none ∧ Composes (script x) (leaves x)) :
    Composes (.separated op.separator (list.map script)) (list.flatMap leaves) := by
  induction list with
  | nil => exact absurd rfl filled
  | cons x rest ih =>
      obtain ⟨⟨ok, first⟩, others⟩ := List.forall_mem_cons.mp each
      cases rest with
      | nil =>
          rw [List.flatMap_cons, List.flatMap_nil, List.append_nil]
          exact first
      | cons y more =>
          have second := ih (List.cons_ne_nil _ _) others
          have apart : (script x ++ .text op.separator).fault = none := by
            rw [Script.fault_append, ok]
            rfl
          have whole : Script.separated op.separator ((x :: y :: more).map script) =
              script x ++ .text op.separator ++
                .separated op.separator ((y :: more).map script) := rfl
          -- the placeholders behind depend on what the leaves before bind, not on their text
          have alike (r : Renderer) : ((r.write (script x)).push op.separator).untexted =
              (r.writeEach (leaves x)).untexted := first.behind r
          rw [whole, List.flatMap_cons]
          constructor
          · intro r
            have later := second.text ((r.write (script x)).push op.separator)
            rw [Renderer.writtenEach_congr (alike r)] at later
            rw [r.written_append apart, r.write_append ok, r.written_append ok, Renderer.write_text,
              Renderer.written_text, List.append_assoc, r.writtenEach_append]
            exact .joined op (first.text r) later
          · intro r
            rw [r.write_append apart, r.write_append ok, Renderer.write_text, second.behind,
              r.writeEach_append]
            exact Renderer.writeEach_untexted (alike r) _

end Composes

end Condition

namespace Predicate

open Condition

variable {d : Dialect} {bare : List String}

/-- A tree with a leaf is put together from its leaves. -/
theorem composes (p : Predicate) (place : Option Bool) (filled : p.leaves ≠ [])
    (ok : (p.script d bare place).fault = none) :
    Composes (p.script d bare place) (p.leaves.map (·.script d bare none)) := by
  induction p using structural generalizing place with
  | leaf p leaf =>
      rw [leaves_of_isLeaf leaf, script_of_isLeaf leaf place]
      exact .leaf _
  | negation inner ih =>
      have some : inner.leaves ≠ [] := filled
      rw [script_not some place] at ok ⊢
      have inside := (Script.append_isOk (Script.append_isOk ok).1).2
      exact (ih none some inside).negation inside
  | grouped op members marked ih =>
      have leafy : ∀ p ∈ kept members, p ∈ members ∧ p.leaves ≠ [] := fun p member =>
        leaves_ne_nil_of_kept member
      have own : (Predicate.group op members marked).leaves = (kept members).flatMap leaves := by
        rw [leaves, ← leavesOf_kept, leavesOf_eq_flatMap]
      rw [own] at filled
      rw [script_group] at ok
      rw [own, List.map_flatMap, script_group]
      generalize kept members = list at filled leafy ok ⊢
      rcases list with _ | ⟨p, _ | ⟨next, rest⟩⟩
      · exact absurd rfl filled
      · obtain ⟨member, some⟩ := leafy p List.mem_cons_self
        rw [List.flatMap_singleton]
        exact ih p member _ some ok
      · have inside := Script.fault_of_parens_if ok
        have each : ∀ m ∈ p :: next :: rest, (m.script d bare none).fault = none ∧
            Composes (m.script d bare none) (m.leaves.map (·.script d bare none)) := by
          intro m present
          have written := Script.separated_isOk inside _ (List.mem_map_of_mem present)
          obtain ⟨member, some⟩ := leafy m present
          exact ⟨written, ih m member none some written⟩
        have joined := Composes.joined op (List.cons_ne_nil _ _) each
        cases place.getD marked with
        | true => exact joined
        | false => exact joined.parens inside

theorem written_eq_nil_iff_of_isLeaf {p : Predicate} (leaf : p.isLeaf = true)
    (ok : (p.script d bare none).fault = none) (r : Renderer) :
    r.written (p.script d bare none) = [] ↔ p.blank = true := by
  cases p with
  | holds field => exact Field.written_eq_nil_iff field bare ok r
  | not inner => exact absurd leaf Bool.false_ne_true
  | group op members marked => exact absurd leaf Bool.false_ne_true
  | _ =>
      obtain ⟨c, member, -⟩ := worded_of_isLeaf leaf rfl ok r
      exact iff_of_false (List.ne_nil_of_mem member) Bool.false_ne_true

theorem leaves_filled {p : Predicate} {place : Option Bool}
    (ok : (p.script d bare place).fault = none) (worded : ∀ leaf ∈ p.leaves, leaf.blank = false)
    (r : Renderer) : ∀ text ∈ r.writtenEach (p.leaves.map (·.script d bare none)), text ≠ [] := by
  have each := leaves_isOk p place ok
  generalize p.leaves = list at each worded
  induction list generalizing r with
  | nil => exact List.forall_mem_nil _
  | cons leaf rest ih =>
      obtain ⟨⟨simple, written⟩, others⟩ := List.forall_mem_cons.mp each
      obtain ⟨own, more⟩ := List.forall_mem_cons.mp worded
      refine List.forall_mem_cons.mpr ⟨?_, ih _ others more⟩
      rw [ne_eq, written_eq_nil_iff_of_isLeaf simple written, own]
      exact Bool.false_ne_true

theorem filled {p : Predicate} {place : Option Bool} (some : p.leaves ≠ [])
    (ok : (p.script d bare place).fault = none) (worded : ∀ leaf ∈ p.leaves, leaf.blank = false)
    (r : Renderer) :
    Filled (r.writtenEach (p.leaves.map (·.script d bare none)))
      (r.written (p.script d bare place)) where
  composed := (p.composes place some ok).text r
  each := leaves_filled ok worded r

theorem isEmpty_iff_written_eq_nil {p : Predicate} {place : Option Bool}
    (ok : (p.script d bare place).fault = none) (worded : ∀ leaf ∈ p.leaves, leaf.blank = false)
    (r : Renderer) : p.isEmpty = true ↔ r.written (p.script d bare place) = [] := by
  rw [isEmpty_eq, List.isEmpty_iff]
  constructor
  · intro none
    rw [script_of_leaves_eq_nil none, r.written_empty]
  · intro nothing
    by_cases none : p.leaves = []
    · exact none
    · exact absurd nothing (filled none ok worded r).ne_nil

theorem clause_eq_empty (keyword : String) {list : List Predicate} (none : leavesOf list = []) :
    Script.conditions keyword (scripts d [] (memberPlace true list) list) = .empty := by
  have nobody : kept list = [] := by
    rw [← leavesOf_kept] at none
    cases known : kept list with
    | nil => rfl
    | cons p rest =>
        have some := (leaves_ne_nil_of_kept (known ▸ List.mem_cons_self : p ∈ kept list)).2
        rw [known, leavesOf] at none
        exact absurd (List.append_eq_nil_iff.mp none).1 some
  rw [scripts_eq_kept, nobody]
  rfl

theorem written_clause (keyword : String) {list : List Predicate} (some : leavesOf list ≠ [])
    (ok : (Script.conditions keyword
      (scripts d [] (memberPlace true list) list)).fault = none) (r : Renderer) :
    ((group .and list true).script d [] none).fault = none ∧
      r.written (.conditions keyword (scripts d [] (memberPlace true list) list)) =
        keyword.toList ++ r.written ((group .and list true).script d [] none) := by
  rw [conditions_eq keyword some] at ok ⊢
  exact ⟨(Script.append_isOk ok).2, r.written_text_append keyword _⟩

end Predicate

end SqlTree
