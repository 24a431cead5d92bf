import Mathlib.Logic.Relation
import SqlTree.Proofs.Condition.Meaning

/-!
Simplifying conditions. Members without a leaf can be dropped and lone members put in the place of
their groups, anywhere in a tree and in any order, and what is written stays the same: a lone member
stands where its group stood. Only the mark of the outermost group has to be handed on.
-/

namespace SqlTree

open Relation

namespace Predicate

mutual

def markless : Predicate → Bool
  | group _ members mark => !mark && allMarkless members
  | not inner => inner.markless
  | _ => true

def allMarkless : List Predicate → Bool
  | [] => true
  | p :: rest => p.markless && allMarkless rest

end

/-- As `markless`, but the tree itself may be a marked group. -/
def marklessInside : Predicate → Bool
  | group _ members _ => allMarkless members
  | p => p.markless

def marked : Predicate → Bool
  | group _ _ mark => mark
  | _ => false

def remarked (mark : Bool) : Predicate → Predicate
  | group op members _ => group op members mark
  | p => p

/-- One step: a member without a leaf is dropped, or a lone member put in the place of its group. -/
inductive Simplifies : Predicate → Predicate → Prop where
  | lone (op : Connective) (p : Predicate) (mark : Bool) : Simplifies (group op [p] mark) p
  | dropped (op : Connective) (before : List Predicate) {p : Predicate} (behind : List Predicate)
      (mark : Bool) (none : p.leaves = []) :
      Simplifies (group op (before ++ p :: behind) mark) (group op (before ++ behind) mark)
  | member (op : Connective) (before : List Predicate) {p q : Predicate} (behind : List Predicate)
      (mark : Bool) (inner : Simplifies p q) :
      Simplifies (group op (before ++ p :: behind) mark) (group op (before ++ q :: behind) mark)
  | negation {p q : Predicate} (inner : Simplifies p q) : Simplifies (not p) (not q)

theorem allMarkless_append (a b : List Predicate) :
    allMarkless (a ++ b) = (allMarkless a && allMarkless b) := by
  induction a with
  | nil => rfl
  | cons p rest ih => rw [List.cons_append, allMarkless, allMarkless, ih, Bool.and_assoc]

theorem allMarkless_members {before behind : List Predicate} {p : Predicate} :
    allMarkless (before ++ p :: behind) = true ↔
      allMarkless before = true ∧ p.markless = true ∧ allMarkless behind = true := by
  rw [allMarkless_append, allMarkless, Bool.and_eq_true, Bool.and_eq_true]

theorem markless_group {op : Connective} {members : List Predicate} {mark : Bool} :
    (group op members mark).markless = true ↔ mark = false ∧ allMarkless members = true := by
  rw [markless, Bool.and_eq_true, Bool.not_eq_true']

theorem markless_iff {p : Predicate} :
    p.markless = true ↔ p.marked = false ∧ p.marklessInside = true := by
  cases p with
  | group op members mark => exact markless_group
  | _ => exact (and_iff_right rfl).symm

theorem remarked_marked (p : Predicate) : p.remarked p.marked = p := by
  cases p <;> rfl

namespace Simplifies

variable {p q : Predicate}

theorem leaves (step : Simplifies p q) : q.leaves = p.leaves := by
  induction step with
  | lone op p mark => rw [Predicate.leaves, leavesOf, leavesOf, List.append_nil]
  | dropped op before behind mark none =>
      rw [Predicate.leaves, Predicate.leaves, leavesOf_append, leavesOf_append, leavesOf, none,
        List.nil_append]
  | member op before behind mark inner ih =>
      rw [Predicate.leaves, Predicate.leaves, leavesOf_append, leavesOf_append, leavesOf, leavesOf,
        ih]
  | negation inner ih => exact ih

theorem isEmpty (step : Simplifies p q) : q.isEmpty = p.isEmpty := by
  rw [isEmpty_eq, isEmpty_eq, step.leaves]

theorem markless (step : Simplifies p q) (markless : p.markless = true) : q.markless = true := by
  induction step with
  | lone op p mark => exact (Bool.and_eq_true_iff.mp (markless_group.mp markless).2).1
  | dropped op before behind mark none =>
      obtain ⟨unmarked, members⟩ := markless_group.mp markless
      obtain ⟨first, -, last⟩ := allMarkless_members.mp members
      rw [markless_group, allMarkless_append, first, last]
      exact ⟨unmarked, rfl⟩
  | member op before behind mark inner ih =>
      obtain ⟨unmarked, members⟩ := markless_group.mp markless
      obtain ⟨first, own, last⟩ := allMarkless_members.mp members
      exact markless_group.mpr ⟨unmarked, allMarkless_members.mpr ⟨first, ih own, last⟩⟩
  | negation inner ih => exact ih markless

theorem marklessInside (step : Simplifies p q) (inside : p.marklessInside = true) :
    q.marklessInside = true := by
  cases step with
  | lone op p mark => exact (markless_iff.mp (Bool.and_eq_true_iff.mp inside).1).2
  | dropped op before behind mark none =>
      obtain ⟨first, -, last⟩ := allMarkless_members.mp inside
      rw [Predicate.marklessInside, allMarkless_append, first, last]
      rfl
  | member op before behind mark inner =>
      obtain ⟨first, own, last⟩ := allMarkless_members.mp inside
      exact allMarkless_members.mpr ⟨first, inner.markless own, last⟩
  | negation inner => exact inner.markless inside

end Simplifies

section Scripts

variable {d : Dialect} {bare : List String}

theorem scripts_append (place : Option Bool) (a b : List Predicate) :
    scripts d bare place (a ++ b) = scripts d bare place a ++ scripts d bare place b := by
  rw [scripts_eq_map, scripts_eq_map, scripts_eq_map, List.filter_append, List.map_append]

theorem length_scripts (place : Option Bool) (members : List Predicate) :
    (scripts d bare place members).length = members.countP (!·.isEmpty) := by
  rw [scripts_eq_map, List.length_map, List.countP_eq_length_filter]

theorem script_group_congr {members others : List Predicate} (op : Connective) (mark : Bool)
    (alike : ∀ place, scripts d bare place members = scripts d bare place others)
    (place : Option Bool) :
    (group op members mark).script d bare place = (group op others mark).script d bare place := by
  have count : members.countP (!·.isEmpty) = others.countP (!·.isEmpty) := by
    calc
      members.countP (!·.isEmpty) = (scripts d bare none members).length :=
        (length_scripts none members).symm
      _ = (scripts d bare none others).length := by rw [alike]
      _ = others.countP (!·.isEmpty) := length_scripts none others
  simp only [script, memberPlace, count, alike]

theorem script_remarked (p : Predicate) (mark : Bool) :
    (p.remarked mark).script d bare none = p.script d bare (some mark) := by
  cases p with
  | group op members own => rw [remarked, script_group, script_group]; rfl
  | not inner => simp only [remarked, script]
  | _ => exact (script_of_isLeaf rfl _).symm

theorem script_none (p : Predicate) : p.script d bare none = p.script d bare (some p.marked) := by
  rw [← script_remarked, remarked_marked]

theorem script_lone (op : Connective) (p : Predicate) (mark outermost : Bool) :
    (group op [p] mark).script d bare (some outermost) = p.script d bare (some outermost) := by
  by_cases none : p.leaves = []
  · rw [script_of_leaves_eq_nil none, script_of_leaves_eq_nil]
    rw [leaves, leavesOf, leavesOf, none, List.nil_append]
  · have lone : kept [p] = [p] := by
      rw [kept_cons, if_neg fun empty => none (List.isEmpty_iff.mp empty)]
      rfl
    rw [script_group, lone]
    rfl

/-- No step changes what is written, in an outermost place or elsewhere. -/
theorem Simplifies.script_eq {p q : Predicate} (step : Simplifies p q)
    (inside : p.marklessInside = true) (outermost : Bool) :
    p.script d bare (some outermost) = q.script d bare (some outermost) := by
  induction step generalizing outermost with
  | lone op p mark => exact script_lone op p mark outermost
  | @dropped op before p behind mark none =>
      have empty : p.isEmpty = true := by rw [isEmpty_eq, none, List.isEmpty_nil]
      apply script_group_congr
      intro place
      rw [scripts_append, scripts_append, scripts, if_pos empty]
  | @member op before p q behind mark inner ih =>
      obtain ⟨-, own, -⟩ := allMarkless_members.mp inside
      have unmarked := markless_iff.mp own
      have still := markless_iff.mp (inner.markless own)
      apply script_group_congr
      intro place
      have alike : p.script d bare place = q.script d bare place := by
        cases place with
        | none => rw [script_none, script_none, unmarked.1, still.1, ih unmarked.2]
        | some outermost => exact ih unmarked.2 outermost
      rw [scripts_append, scripts_append, scripts, scripts, inner.isEmpty, alike]
  | @negation p q inner ih =>
      have unmarked := markless_iff.mp (show p.markless = true from inside)
      have still := markless_iff.mp (inner.markless inside)
      have alike : p.script d bare none = q.script d bare none := by
        rw [script_none, script_none, unmarked.1, still.1, ih unmarked.2]
      rw [script, script, inner.isEmpty, alike]

theorem script_of_steps {p q : Predicate} (steps : ReflTransGen Simplifies p q)
    (inside : p.marklessInside = true) :
    q.marklessInside = true ∧ ∀ outermost,
      p.script d bare (some outermost) = q.script d bare (some outermost) := by
  induction steps with
  | refl => exact ⟨inside, fun _ => rfl⟩
  | @tail q left steps step ih =>
      obtain ⟨still, alike⟩ := ih
      refine ⟨step.marklessInside still, fun outermost => ?_⟩
      calc
        p.script d bare (some outermost) = q.script d bare (some outermost) := alike outermost
        _ = left.script d bare (some outermost) := step.script_eq still outermost

theorem markless_of_steps {p q : Predicate} (steps : ReflTransGen Simplifies p q)
    (markless : p.markless = true) : q.markless = true := by
  induction steps with
  | refl => exact markless
  | tail steps step ih => exact step.markless ih

theorem leaves_of_steps {p q : Predicate} (steps : ReflTransGen Simplifies p q) :
    q.leaves = p.leaves := by
  induction steps with
  | refl => rfl
  | tail steps step ih => exact step.leaves.trans ih

end Scripts

/-! ### The tree with nothing left to simplify -/

mutual

/-- Leafless members are dropped, then lone ones replace their groups, from the inside out. -/
def simplified : Predicate → Predicate
  | group op members mark =>
      match simplifiedEach members with
      | [p] => p
      | list => group op list mark
  | not inner => not inner.simplified
  | p => p

def simplifiedEach : List Predicate → List Predicate
  | [] => []
  | p :: rest => if p.isEmpty then simplifiedEach rest else p.simplified :: simplifiedEach rest

end

theorem simplified_of_isLeaf {p : Predicate} (leaf : p.isLeaf = true) : p.simplified = p := by
  cases p <;> simp_all [isLeaf, simplified]

theorem steps_simplifiedEach (op : Connective) (mark : Bool) (members : List Predicate)
    (each : ∀ p ∈ members, ReflTransGen Simplifies p p.simplified) (before : List Predicate) :
    ReflTransGen Simplifies (group op (before ++ members) mark)
      (group op (before ++ simplifiedEach members) mark) := by
  induction members generalizing before with
  | nil => exact .refl
  | cons p rest ih =>
      obtain ⟨own, others⟩ := List.forall_mem_cons.mp each
      rw [simplifiedEach]
      by_cases empty : p.isEmpty = true
      · have none : p.leaves = [] := List.isEmpty_iff.mp ((isEmpty_eq p).symm.trans empty)
        rw [if_pos empty]
        exact (ih others before).head (.dropped op before rest mark none)
      · have first : ReflTransGen Simplifies (group op (before ++ p :: rest) mark)
            (group op (before ++ p.simplified :: rest) mark) :=
          own.lift (fun q => group op (before ++ q :: rest) mark)
            fun _ _ => .member op before rest mark
        have later := ih others (before ++ [p.simplified])
        rw [List.append_assoc, List.append_assoc] at later
        rw [if_neg empty]
        exact first.trans later

theorem steps_simplified (p : Predicate) : ReflTransGen Simplifies p p.simplified := by
  induction p using structural with
  | leaf p leaf => rw [simplified_of_isLeaf leaf]
  | negation inner ih => exact ih.lift not fun _ _ => .negation
  | grouped op members mark ih =>
      have each := steps_simplifiedEach op mark members ih []
      rw [simplified]
      split
      · next p known =>
        rw [known] at each
        exact each.tail (.lone op p mark)
      · exact each

theorem leaves_simplified (p : Predicate) : p.simplified.leaves = p.leaves :=
  leaves_of_steps p.steps_simplified

theorem mem_simplifiedEach {members : List Predicate} {q : Predicate}
    (member : q ∈ simplifiedEach members) :
    q.leaves ≠ [] ∧ ∃ p ∈ members, p.simplified = q := by
  induction members with
  | nil => exact absurd member List.not_mem_nil
  | cons p rest ih =>
      rw [simplifiedEach] at member
      by_cases empty : p.isEmpty = true
      · rw [if_pos empty] at member
        obtain ⟨some, p, among, made⟩ := ih member
        exact ⟨some, p, List.mem_cons_of_mem _ among, made⟩
      · rw [if_neg empty] at member
        rcases List.mem_cons.mp member with rfl | later
        · have some : p.leaves ≠ [] := by rwa [isEmpty_eq, List.isEmpty_iff] at empty
          exact ⟨by rwa [leaves_simplified], p, List.mem_cons_self, rfl⟩
        · obtain ⟨some, p, among, made⟩ := ih later
          exact ⟨some, p, List.mem_cons_of_mem _ among, made⟩

theorem simplified_irreducible (p q : Predicate) : ¬ Simplifies p.simplified q := by
  induction p using structural generalizing q with
  | leaf p leaf =>
      rw [simplified_of_isLeaf leaf]
      intro step
      cases step <;> exact Bool.false_ne_true leaf
  | negation inner ih =>
      rw [simplified]
      intro step
      cases step with
      | negation inside => exact ih _ inside
  | grouped op members mark ih =>
      have each : ∀ p ∈ simplifiedEach members, p.leaves ≠ [] ∧ ∀ q, ¬ Simplifies p q := by
        intro p member
        obtain ⟨some, own, among, rfl⟩ := mem_simplifiedEach member
        exact ⟨some, ih own among⟩
      rw [simplified]
      split
      · next p known => exact (each p (known ▸ List.mem_cons_self)).2 q
      · next several =>
        generalize simplifiedEach members = list at each several
        intro step
        cases step with
        | lone op p mark => exact several _ rfl
        | dropped op before behind mark none => exact (each _ (by simp)).1 none
        | member op before behind mark inside => exact (each _ (by simp)).2 _ inside

/-! ### Clauses -/

variable {d : Dialect}

theorem conditions_eq_onlyIf (keyword : String) (list : List Predicate) (mark : Bool) :
    Script.conditions keyword (scripts d [] (memberPlace true list) list) =
      .onlyIf (!(group .and list mark).isEmpty)
        (.text keyword ++ (group .and list mark).script d [] (some true)) := by
  have empty : (group .and list mark).isEmpty =
      (scripts d [] (memberPlace true list) list).isEmpty := by
    rw [isEmpty, allEmpty_eq_all, Bool.eq_iff_iff, scripts_eq_map, List.isEmpty_map,
      List.isEmpty_iff, List.filter_eq_nil_iff]
    simp
  rw [Script.conditions, empty]
  rfl

/-- Wherever the conditions of a clause are one list or the other, the same is written. -/
structure SameClauses (d : Dialect) (list other : List Predicate) : Prop where
  select : ∀ s : Select,
    { s with conditions := list }.script d = { s with conditions := other }.script d
  having : ∀ s : Select, { s with having := list }.script d = { s with having := other }.script d
  join : ∀ j : Join,
    { j with conditions := list }.script d = { j with conditions := other }.script d
  update : ∀ u : Update,
    { u with conditions := list }.script d = { u with conditions := other }.script d
  delete : ∀ q : Delete,
    { q with conditions := list }.script d = { q with conditions := other }.script d

theorem SameClauses.of_clause {list other : List Predicate}
    (empty : allEmpty list = allEmpty other)
    (clause : ∀ keyword, Script.conditions keyword (scripts d [] (memberPlace true list) list) =
      Script.conditions keyword (scripts d [] (memberPlace true other) other)) :
    SameClauses d list other where
  select s := by simp only [Select.script, clause]
  having s := by simp only [Select.script, clause]
  join j := by simp only [Join.script, clause]
  update u := by simp only [Update.script, clause]
  delete q := by simp only [Delete.script, clause, empty]

/-- A tree in which no nested group is marked is simplified in any number of steps. In a place that is
given, outermost or not, the same is written as before: the same text and arguments, or the same
fault. By itself the same is written if what is left has the mark of the tree, and so it has if the
tree was not marked either. Clauses whose lists are the members of two such groups are alike in every
statement. The tree with nothing left to simplify is reached in this way. -/
theorem simplifying_keeps_script (p q : Predicate) (inside : p.marklessInside = true)
    (steps : ReflTransGen Simplifies p q) :
    (∀ d bare outermost, p.script d bare (some outermost) = q.script d bare (some outermost)) ∧
    (∀ d bare, p.script d bare none = (q.remarked p.marked).script d bare none) ∧
    (p.markless = true → ∀ d bare, p.script d bare none = q.script d bare none) ∧
    (∀ list other mark own, p = group .and list mark → q = group .and other own →
      ∀ d, SameClauses d list other) ∧
    ReflTransGen Simplifies p p.simplified ∧ ∀ left, ¬ Simplifies p.simplified left := by
  have alike (d : Dialect) (bare : List String) (outermost : Bool) :
      p.script d bare (some outermost) = q.script d bare (some outermost) :=
    (script_of_steps steps inside).2 outermost
  refine ⟨alike, ?_, ?_, ?_, p.steps_simplified, p.simplified_irreducible⟩
  · intro d bare
    rw [script_remarked, script_none, alike]
  · intro markless d bare
    have unmarked := (markless_iff.mp markless).1
    have still := (markless_iff.mp (markless_of_steps steps markless)).1
    rw [script_none, script_none, unmarked, still, alike]
  · rintro list other mark own rfl rfl d
    have empty : (group .and other own).isEmpty = (group .and list mark).isEmpty := by
      rw [isEmpty_eq, isEmpty_eq, leaves_of_steps steps]
    apply SameClauses.of_clause
    · exact empty.symm
    · intro keyword
      rw [conditions_eq_onlyIf keyword list mark, conditions_eq_onlyIf keyword other own, empty,
        alike]

theorem simplifying_keeps_script_nested :
    let choice := group .or [.holds (.template "a" []), .holds (.template "b" [])] false
    let p := group .and
      [group .or [] false, group .or [choice] false, not (group .and [] false)] false
    p.marklessInside = true ∧ ReflTransGen Simplifies p choice ∧
      p.script .postgres [] (some true) = choice.script .postgres [] (some true) ∧
      p.script .postgres [] none = choice.script .postgres [] none ∧
      (Renderer.new .postgres).written (p.script .postgres [] none) = "(a OR b)".toList := by
  intro choice p
  have steps : ReflTransGen Simplifies p choice := p.steps_simplified
  obtain ⟨placed, -, alone, -⟩ := simplifying_keeps_script p choice rfl steps
  exact ⟨rfl, steps, placed .postgres [] true, alone rfl .postgres [], by decide⟩

/-- Without its group's mark a lone group gets parentheses that its group did without. -/
theorem marked_group_stands_for_lone_one :
    let choice := group .or [.holds (.template "a" []), .holds (.template "b" [])] false
    let p := group .and [choice] true
    p.marklessInside = true ∧ Simplifies p choice ∧
      (Renderer.new .sqlite).written (p.script .sqlite [] none) = "a OR b".toList ∧
      (Renderer.new .sqlite).written (choice.script .sqlite [] none) = "(a OR b)".toList :=
  ⟨rfl, .lone .and _ true, by decide, by decide⟩

end Predicate

open Predicate in
/-- A group of any connective may stand for the conditions of a join: as their one member it is
written in the outermost place, whatever its mark. -/
theorem Join.script_of_group (d : Dialect) (kind : JoinKind) (source : Source) (op : Connective)
    (members : List Predicate) (mark : Bool) :
    Join.script d ⟨kind, source, [group op members mark]⟩ =
      .text (kind.keyword ++ " ") ++ source.script d ++
        .onlyIf (!(group op members mark).isEmpty)
          (.text " ON " ++ (group op members mark).script d [] (some true)) := by
  have whole : (group .and [group op members mark] mark).isEmpty =
      (group op members mark).isEmpty := by
    rw [isEmpty, allEmpty, allEmpty, Bool.and_true]
  rw [Join.script, conditions_eq_onlyIf " ON " _ mark, whole, script_lone]

end SqlTree
