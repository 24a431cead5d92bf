import SqlTree.Proofs.Condition.Operands
import SqlTree.Tree.Fields
import SqlTree.Tree.Script

/-!
Conditions keep their meaning: a tree of groups and negations, read back from its text by the
precedence of SQL, is as true as the tree under every truth of its leaves.
-/

namespace SqlTree

namespace Predicate

def isLeaf : Predicate → Bool
  | group .. | not _ => false
  | _ => true

mutual

def leaves : Predicate → List Predicate
  | group _ members _ => leavesOf members
  | not inner => inner.leaves
  | p => [p]

def leavesOf : List Predicate → List Predicate
  | [] => []
  | p :: rest => p.leaves ++ leavesOf rest

end

mutual

/-- The value of a tree if the leaves, numbered from `n`, have the given truth. Members without a
leaf are dropped. -/
def value (truth : Nat → Bool) (n : Nat) : Predicate → Bool
  | group op members _ => valueOf op truth n members
  | not inner => !inner.value truth n
  | _ => truth n

def valueOf (op : Connective) (truth : Nat → Bool) (n : Nat) : List Predicate → Bool
  | [] => op.neutral
  | p :: rest =>
      if p.leaves.isEmpty then valueOf op truth n rest
      else op.apply (p.value truth n) (valueOf op truth (n + p.leaves.length) rest)

end

mutual

/-- No leaf is text of the caller's own, and no group is marked. -/
def unmarked : Predicate → Bool
  | group _ members marked => !marked && allUnmarked members
  | not inner => inner.unmarked
  | holds _ => false
  | _ => true

def allUnmarked : List Predicate → Bool
  | [] => true
  | p :: rest => p.unmarked && allUnmarked rest

end

/-- As `unmarked`, but the tree itself may be a marked group. -/
def unmarkedInside : Predicate → Bool
  | group _ members _ => allUnmarked members
  | p => p.unmarked

mutual

theorem structural {motive : Predicate → Prop} (leaf : ∀ p, p.isLeaf = true → motive p)
    (negation : ∀ inner, motive inner → motive (not inner))
    (grouped : ∀ op members marked, (∀ p ∈ members, motive p) → motive (group op members marked)) :
    ∀ p : Predicate, motive p
  | compare left op right => leaf (compare left op right) rfl
  | isNull field negated => leaf (isNull field negated) rfl
  | inList field values negated => leaf (inList field values negated) rfl
  | inQuery field query negated => leaf (inQuery field query negated) rfl
  | between field low high negated => leaf (between field low high negated) rfl
  | existsRow query negated => leaf (existsRow query negated) rfl
  | holds field => leaf (holds field) rfl
  | not inner => negation inner (structural leaf negation grouped inner)
  | group op members marked =>
      grouped op members marked (structuralEach leaf negation grouped members)

theorem structuralEach {motive : Predicate → Prop} (leaf : ∀ p, p.isLeaf = true → motive p)
    (negation : ∀ inner, motive inner → motive (not inner))
    (grouped : ∀ op members marked, (∀ p ∈ members, motive p) → motive (group op members marked)) :
    ∀ list : List Predicate, ∀ p ∈ list, motive p
  | [] => List.forall_mem_nil _
  | p :: rest =>
      List.forall_mem_cons.mpr
        ⟨structural leaf negation grouped p, structuralEach leaf negation grouped rest⟩

end

theorem allUnmarked_eq_all (members : List Predicate) :
    allUnmarked members = members.all unmarked := by
  induction members with
  | nil => rfl
  | cons p rest ih => simp [allUnmarked, ih]

theorem leaves_of_isLeaf {p : Predicate} (leaf : p.isLeaf = true) : p.leaves = [p] := by
  cases p <;> simp_all [isLeaf, leaves]

theorem leavesOf_eq_flatMap (members : List Predicate) :
    leavesOf members = members.flatMap leaves := by
  induction members with
  | nil => rfl
  | cons p rest ih => simp [leavesOf, ih]

theorem leavesOf_append (a b : List Predicate) : leavesOf (a ++ b) = leavesOf a ++ leavesOf b := by
  rw [leavesOf_eq_flatMap, leavesOf_eq_flatMap, leavesOf_eq_flatMap, List.flatMap_append]

/-- A tree writes no text exactly if it has no leaf. -/
theorem isEmpty_eq (p : Predicate) : p.isEmpty = p.leaves.isEmpty := by
  induction p using structural with
  | leaf p leaf =>
      rw [leaves_of_isLeaf leaf]
      cases p <;> simp_all [isLeaf, isEmpty]
  | negation inner ih => simpa [isEmpty, leaves] using ih
  | grouped op members marked ih =>
      rw [isEmpty, leaves, leavesOf_eq_flatMap, allEmpty_eq_all]
      rw [Bool.eq_iff_iff]
      simp only [List.all_eq_true, List.isEmpty_iff, List.flatMap_eq_nil_iff]
      refine forall₂_congr ?_
      intro p member
      rw [ih p member, List.isEmpty_iff]

def kept (members : List Predicate) : List Predicate := members.filter (!·.isEmpty)

theorem leaves_ne_nil_of_kept {p : Predicate} {members : List Predicate}
    (member : p ∈ kept members) : p ∈ members ∧ p.leaves ≠ [] := by
  obtain ⟨present, some⟩ := List.mem_filter.mp member
  exact ⟨present, by simpa [isEmpty_eq] using some⟩

theorem kept_cons (p : Predicate) (rest : List Predicate) :
    kept (p :: rest) = if p.leaves.isEmpty then kept rest else p :: kept rest := by
  simp only [kept, List.filter_cons, isEmpty_eq]
  cases p.leaves.isEmpty <;> rfl

theorem leavesOf_kept (members : List Predicate) : leavesOf (kept members) = leavesOf members := by
  induction members with
  | nil => rfl
  | cons p rest ih =>
      rw [kept_cons]
      by_cases none : p.leaves = []
      · simpa [leavesOf, none] using ih
      · simpa [leavesOf, none] using ih

theorem valueOf_kept (op : Connective) (truth : Nat → Bool) (n : Nat) (members : List Predicate) :
    valueOf op truth n (kept members) = valueOf op truth n members := by
  induction members generalizing n with
  | nil => rfl
  | cons p rest ih =>
      rw [kept_cons]
      by_cases none : p.leaves = []
      · simpa [valueOf, none] using ih n
      · simp [valueOf, none, ih]

theorem scripts_eq_kept (d : Dialect) (bare : List String) (place : Option Bool)
    (members : List Predicate) :
    scripts d bare place members = (kept members).map (·.script d bare place) :=
  scripts_eq_map d bare place members

theorem memberPlace_eq (outermost : Bool) (members : List Predicate) :
    memberPlace outermost members = if (kept members).length = 1 then some outermost else none := by
  rw [memberPlace, kept, List.countP_eq_length_filter]

end Predicate

namespace Condition

theorem members_read {d : Dialect} {bare : List String} (op : Connective)
    (members : List Predicate) (filled : members ≠ []) (each : ∀ p ∈ members, p.leaves ≠ [] ∧
      (p.script d bare none).fault = none ∧
      Operand (p.script d bare none) (p.leaves.map (·.script d bare none)) p.value) :
    ∃ segments,
      Spells (.separated op.separator (members.map (·.script d bare none))) segments ∧
      Segment.atoms segments = (Predicate.leavesOf members).map (·.script d bare none) ∧
      ReadsMembers op segments fun truth n => Predicate.valueOf op truth n members := by
  induction members with
  | nil => exact absurd rfl filled
  | cons p rest ih =>
      obtain ⟨⟨some, ok, segments, spells, atoms, reads⟩, others⟩ := List.forall_mem_cons.mp each
      cases rest with
      | nil =>
          refine ⟨segments, spells, ?_, ?_⟩
          · simpa [Predicate.leavesOf] using atoms
          · simpa [Predicate.valueOf, some] using reads.member op
      | cons next rest =>
          obtain ⟨behind, spelled, leaves, more⟩ := ih (List.cons_ne_nil _ _) others
          have sign : Spells (.text op.separator) [.sign op.sign] := by
            rw [op.separator_eq]
            exact Spells.sign op.sign
          refine ⟨segments ++ [.sign op.sign] ++ behind, ?_, ?_, ?_⟩
          · refine (spells.append ok sign).append ?_ spelled
            rw [Script.fault_append, ok]
            rfl
          · rw [Segment.atoms_append, Segment.atoms_append, atoms, leaves]
            simp [Segment.atoms, Predicate.leavesOf]
          · have followed := reads.followed more
            have count : (Segment.atoms segments).length = p.leaves.length := by
              rw [atoms, List.length_map]
            rw [count] at followed
            have value : (fun truth n => Predicate.valueOf op truth n (p :: next :: rest)) =
                fun truth n => op.apply (p.value truth n)
                  (Predicate.valueOf op truth (n + p.leaves.length) (next :: rest)) := by
              funext truth n
              rw [Predicate.valueOf, if_neg (by simpa using some)]
            rw [value]
            exact followed

theorem Whole.group {d : Dialect} {bare : List String} (op : Connective) (members : List Predicate)
    (filled : members ≠ []) (each : ∀ p ∈ members, p.leaves ≠ [] ∧
      (p.script d bare none).fault = none ∧
      Operand (p.script d bare none) (p.leaves.map (·.script d bare none)) p.value) :
    Whole (.separated op.separator (members.map (·.script d bare none)))
      ((Predicate.leavesOf members).map (·.script d bare none))
      fun truth n => Predicate.valueOf op truth n members := by
  obtain ⟨segments, spells, atoms, reads⟩ := members_read op members filled each
  exact ⟨segments, spells, atoms, reads.whole⟩

end Condition

namespace Predicate

open Condition

variable {d : Dialect} {bare : List String}

theorem script_of_isLeaf {p : Predicate} (leaf : p.isLeaf = true) (place : Option Bool) :
    p.script d bare place = p.script d bare none := by
  cases p <;> simp_all [isLeaf, script]

theorem script_not {inner : Predicate} (filled : inner.leaves ≠ []) (place : Option Bool) :
    (Predicate.not inner).script d bare place =
      .text "NOT (" ++ inner.script d bare none ++ .text ")" := by
  simp [script, Script.onlyIf, isEmpty_eq, filled]

theorem group_unmarked {op : Connective} {members : List Predicate} {marked : Bool}
    (unmarked : (Predicate.group op members marked).unmarked = true) :
    marked = false ∧ ∀ p ∈ members, p.unmarked = true := by
  simpa [Predicate.unmarked, allUnmarked_eq_all] using unmarked

theorem script_of_leaves_eq_nil {p : Predicate} (none : p.leaves = []) (place : Option Bool) :
    p.script d bare place = .empty := by
  cases p with
  | group op members marked =>
      have nobody : kept members = [] := by
        rw [leaves, leavesOf_eq_flatMap, List.flatMap_eq_nil_iff] at none
        simpa [kept, isEmpty_eq] using none
      simp [script, scripts_eq_kept, nobody, Script.group]
  | not inner => simp_all [script, Script.onlyIf, isEmpty_eq, leaves]
  | _ => exact nomatch none

/-- How a tree is read back where it stands: as a whole if outermost, else as an operand. -/
def ReadAt (d : Dialect) (bare : List String) (place : Option Bool) (p : Predicate) : Prop :=
  let leaves := p.leaves.map (·.script d bare none)
  if place.getD false then Whole (p.script d bare place) leaves p.value
  else Operand (p.script d bare place) leaves p.value

theorem ReadAt.of_operand {place : Option Bool} {p : Predicate}
    (operand : Operand (p.script d bare place) (p.leaves.map (·.script d bare none)) p.value) :
    p.ReadAt d bare place := by
  unfold ReadAt
  split
  · exact operand.whole
  · exact operand

theorem ReadAt.whole {place : Option Bool} {p : Predicate} (read : p.ReadAt d bare place) :
    Whole (p.script d bare place) (p.leaves.map (·.script d bare none)) p.value := by
  unfold ReadAt at read
  split at read
  · exact read
  · exact read.whole

theorem script_group (op : Connective) (members : List Predicate) (marked : Bool)
    (place : Option Bool) :
    (Predicate.group op members marked).script d bare place =
      match kept members with
      | [] => .empty
      | [p] => p.script d bare (some (place.getD marked))
      | several =>
          let inner := Script.separated op.separator (several.map (·.script d bare none))
          if place.getD marked then inner else .parens inner := by
  simp only [script, scripts_eq_kept, memberPlace_eq]
  rcases kept members with _ | ⟨p, _ | ⟨next, rest⟩⟩
  · rfl
  · rfl
  · have several : (p :: next :: rest).length ≠ 1 := by simp
    simp only [several, if_false]
    rfl

theorem group_isOk {op : Connective} {members : List Predicate} {marked : Bool}
    {place : Option Bool}
    (ok : ((Predicate.group op members marked).script d bare place).fault = none) :
    ∀ p ∈ kept members, ∃ own, (p.script d bare own).fault = none := by
  rw [script_group] at ok
  generalize kept members = list at ok ⊢
  rcases list with _ | ⟨p, _ | ⟨next, rest⟩⟩
  · exact List.forall_mem_nil _
  · exact List.forall_mem_singleton.mpr ⟨_, ok⟩
  · have inside := Script.fault_of_parens_if ok
    intro m member
    exact ⟨none, Script.separated_isOk inside _ (List.mem_map_of_mem member)⟩

theorem ReadAt.group {op : Connective} {members : List Predicate} (filled : leavesOf members ≠ [])
    (place : Option Bool)
    (ok : ((Predicate.group op members false).script d bare place).fault = none)
    (each : ∀ p ∈ kept members, ∀ place, (p.script d bare place).fault = none →
      p.ReadAt d bare place) : (Predicate.group op members false).ReadAt d bare place := by
  have value : (Predicate.group op members false).value =
      fun truth n => valueOf op truth n (kept members) := by
    funext truth n
    rw [valueOf_kept]
    rfl
  have leaves : (Predicate.group op members false).leaves = leavesOf (kept members) := by
    rw [leavesOf_kept]
    rfl
  have leafy : ∀ p ∈ kept members, p.leaves ≠ [] := fun p member =>
    (leaves_ne_nil_of_kept member).2
  rw [ReadAt, value, leaves]
  rw [← leavesOf_kept] at filled
  rw [script_group] at ok ⊢
  generalize kept members = list at filled leafy each ok ⊢
  rcases list with _ | ⟨p, _ | ⟨next, rest⟩⟩
  · exact absurd rfl filled
  · have own := each p List.mem_cons_self (some (place.getD false)) ok
    have lone : (fun truth n => valueOf op truth n [p]) = p.value := by
      funext truth n
      simp [valueOf, leafy p List.mem_cons_self]
    rw [lone, leavesOf, leavesOf, List.append_nil]
    exact own
  · have inside := Script.fault_of_parens_if ok
    have parts : ∀ m ∈ p :: next :: rest, m.leaves ≠ [] ∧ (m.script d bare none).fault = none ∧
        Operand (m.script d bare none) (m.leaves.map (·.script d bare none)) m.value := by
      intro m member
      have written := Script.separated_isOk inside _ (List.mem_map_of_mem member)
      exact ⟨leafy m member, written, each m member none written⟩
    have whole := Whole.group op (p :: next :: rest) (List.cons_ne_nil _ _) parts
    cases place.getD false with
    | true => exact whole
    | false => exact whole.parens inside

theorem readAt (p : Predicate) (unmarked : p.unmarked = true) (filled : p.leaves ≠ [])
    (place : Option Bool) (ok : (p.script d bare place).fault = none) : p.ReadAt d bare place := by
  induction p using structural generalizing place with
  | leaf p leaf =>
      apply ReadAt.of_operand
      have value : p.value = fun truth n => truth n := by
        cases p <;> simp_all [isLeaf, Predicate.value]
      rw [leaves_of_isLeaf leaf, script_of_isLeaf leaf place, value]
      exact Operand.leaf _
  | negation inner ih =>
      have written : (Predicate.not inner).script d bare place =
          .text "NOT (" ++ inner.script d bare none ++ .text ")" := by
        have inside : inner.leaves ≠ [] := filled
        exact script_not inside place
      rw [written] at ok
      have inside := (Script.append_isOk (Script.append_isOk ok).1).2
      apply ReadAt.of_operand
      rw [written]
      exact (ih unmarked filled none inside).whole.negation inside
  | grouped op members marked ih =>
      obtain ⟨rfl, each⟩ := group_unmarked unmarked
      apply ReadAt.group filled place ok
      intro p member place ok
      obtain ⟨present, leafy⟩ := leaves_ne_nil_of_kept member
      exact ih p present (each p present) leafy place ok

theorem worded_of_isLeaf {p : Predicate} (leaf : p.isLeaf = true) (unmarked : p.unmarked = true)
    (ok : (p.script d bare none).fault = none) : Worded (p.script d bare none) := by
  cases p with
  | compare left op right =>
      have first := (Script.append_isOk (Script.append_isOk ok).1).1
      refine worded_of_piece (Script.mem_left (Script.mem_behind first) _) ?_
      cases op <;> decide
  | isNull field negated =>
      refine worded_of_piece (Script.mem_behind (Script.append_isOk ok).1) ?_
      cases negated <;> decide
  | inList field values negated =>
      simp only [script] at ok ⊢
      split at ok
      · exact nomatch ok
      · next filled =>
        rw [if_neg filled]
        have first := (Script.append_isOk (Script.append_isOk (Script.append_isOk ok).1).1).1
        refine worded_of_piece (Script.mem_left (Script.mem_left (Script.mem_behind first) _) _) ?_
        cases negated <;> decide
  | inQuery field query negated =>
      have first := (Script.append_isOk (Script.append_isOk (Script.append_isOk ok).1).1).1
      refine worded_of_piece (Script.mem_left (Script.mem_left (Script.mem_behind first) _) _) ?_
      cases negated <;> decide
  | between field low high negated =>
      have inside := (Script.append_isOk (Script.append_isOk ok).1).1
      have first := (Script.append_isOk (Script.append_isOk inside).1).1
      refine worded_of_piece (Script.mem_left (Script.mem_left
        (Script.mem_left (Script.mem_behind first) _) _) _) ?_
      cases negated <;> decide
  | existsRow query negated =>
      have piece {k : String} : Piece.text k ∈ (Script.text k).pieces := List.mem_singleton_self _
      refine worded_of_piece (Script.mem_left (Script.mem_left piece _) _) ?_
      cases negated <;> decide
  | not inner => exact nomatch leaf
  | group op members marked => exact nomatch leaf
  | holds field => exact nomatch unmarked

theorem leaves_worded (p : Predicate) (unmarked : p.unmarked = true) (place : Option Bool)
    (ok : (p.script d bare place).fault = none) :
    ∀ leaf ∈ p.leaves, Worded (leaf.script d bare none) := by
  induction p using structural generalizing place with
  | leaf p leaf =>
      rw [leaves_of_isLeaf leaf]
      rw [script_of_isLeaf leaf place] at ok
      exact List.forall_mem_singleton.mpr (worded_of_isLeaf leaf unmarked ok)
  | negation inner ih =>
      by_cases filled : inner.leaves = []
      · rw [leaves, filled]
        exact List.forall_mem_nil _
      · rw [script_not filled place] at ok
        exact ih unmarked none (Script.append_isOk (Script.append_isOk ok).1).2
  | grouped op members marked ih =>
      obtain ⟨-, each⟩ := group_unmarked unmarked
      intro leaf member
      rw [leaves, ← leavesOf_kept, leavesOf_eq_flatMap] at member
      obtain ⟨p, present, within⟩ := List.mem_flatMap.mp member
      obtain ⟨own, written⟩ := group_isOk ok p present
      have among := (leaves_ne_nil_of_kept present).1
      exact ih p among (each p among) own written leaf within

/-- A tree whose outermost group may be marked is written like an unmarked one in another place. -/
theorem exists_unmarked {p : Predicate} (inside : p.unmarkedInside = true) (place : Option Bool) :
    ∃ q : Predicate, ∃ own, q.unmarked = true ∧ q.script d bare own = p.script d bare place ∧
      q.leaves = p.leaves ∧ q.value = p.value := by
  cases p with
  | group op members marked =>
      refine ⟨.group op members false, some (place.getD marked), inside, ?_, rfl, rfl⟩
      rw [script_group, script_group]
      rfl
  | _ => exact ⟨_, place, inside, rfl, rfl, rfl⟩

/-- A tree of comparisons and their like, in groups and negations, of which none but the outermost
group is marked, adds some text to any renderer, in an outermost place or elsewhere. That text is
empty if the tree has no leaf. Else it is read back, the text of each leaf as one atom, as a
condition that is as true as the tree, whatever the truth of the leaves. -/
theorem reading_keeps_value (p : Predicate) (inside : p.unmarkedInside = true) (r : Renderer)
    (bare : List String) (place : Option Bool)
    (ok : (p.script r.dialect bare place).fault = none) :
    ∃ text, (r.write (p.script r.dialect bare place)).sql.toList = r.sql.toList ++ text ∧
      (p.leaves = [] → text = []) ∧
      (p.leaves ≠ [] → ∃ c,
        Condition.read? (r.writtenEach (p.leaves.map (·.script r.dialect bare none))) text =
          some c ∧
        ∀ truth, c.value truth = p.value truth 0) := by
  refine ⟨_, r.write_sql _, ?_, ?_⟩
  · intro none
    rw [script_of_leaves_eq_nil none, Renderer.written_empty]
  · intro filled
    obtain ⟨q, own, unmarked, script, leaves, value⟩ := exists_unmarked inside place
    rw [← script] at ok ⊢
    rw [← leaves] at filled ⊢
    obtain ⟨segments, spells, atoms, reads⟩ := (q.readAt unmarked filled own ok).whole
    have worded := q.leaves_worded unmarked own ok
    obtain ⟨level, c, same, run⟩ := reads 0
    have split := tokens?_spelled segments
      (by rw [atoms]; exact List.forall_mem_map.mpr worded) r 0
    refine ⟨level.closed c, ?_, ?_⟩
    · rw [spells.written, Condition.read?, ← atoms, split]
      have result := run []
      simp [Condition.ofTokens?, result, Reader.result?]
    · intro truth
      rw [same, value]

theorem reading_keeps_value_nested :
    let p : Predicate := .group .and
      [.group .or [.group .and [] false, .compare (.bare "id") .eq (.value (.int 1)),
        .group .and [.isNull (.bare "role") false,
          .between (.bare "n") (.value (.int 2)) (.shared "top" (.int 9)) true] false] false,
        .not (.group .or [.inList (.bare "x") [.value .null] false,
          .compare (.bare "y") .notLike (.value (.text "a OR b"))] false)] true
    p.unmarkedInside = true ∧ (p.script .postgres [] none).fault = none ∧
      ∃ text c, ((Renderer.new .postgres).write (p.script .postgres [] none)).sql.toList = text ∧
        Condition.read? ["id = $1".toList, "role IS NULL".toList,
          "n NOT BETWEEN $2 AND $3".toList, "x IN ($4)".toList, "y NOT LIKE $5".toList] text =
          some c ∧
        ∀ truth, c.value truth =
          ((truth 0 || truth 1 && truth 2) && !(truth 3 || truth 4)) := by
  intro p
  obtain ⟨text, written, -, read⟩ :=
    p.reading_keeps_value rfl (Renderer.new .postgres) [] none rfl
  obtain ⟨c, same, value⟩ := read (by decide)
  refine ⟨rfl, rfl, text, c, written, ?_, ?_⟩
  · exact same
  · intro truth
    simpa [p, Predicate.value, valueOf, leaves, leavesOf, Connective.apply, Connective.neutral]
      using value truth

end Predicate

end SqlTree
