import SqlTree.Proofs.Condition.Meaning
import SqlTree.Proofs.Condition.Phrases

/-!
Conditions in the caller's own words: a leaf whose text is a condition by itself keeps its meaning
in a tree of groups and negations, unless a group joined by AND has it for a member and its text has
an OR outside parentheses. A group writes its own parentheses, but none around its members.
-/

namespace SqlTree

open Condition

/-- What the caller's own texts are made of, and what each of them says by itself. -/
structure Wording (d : Dialect) (bare : List String) where
  parts : Field → List Segment
  reading : Field → Condition

namespace Predicate

variable {d : Dialect} {bare : List String} (w : Wording d bare)

def segments : Predicate → List Segment
  | holds field => w.parts field
  | p => [.atom (p.script d bare none)]

def atoms (p : Predicate) : List Script :=
  p.leaves.flatMap fun leaf => Segment.atoms (leaf.segments w)

mutual

/-- The value of a tree if its atoms, numbered from `n`, have the given truth: the members of a group
that write text are joined by its connective, and the caller's own text says there what it says by
itself. -/
def meaning (truth : Nat → Bool) (n : Nat) : Predicate → Bool
  | group op members _ => meaningOf op truth n members
  | not inner => !inner.meaning truth n
  | holds field => (w.reading field).value (truthFrom n truth)
  | _ => truth n

def meaningOf (op : Connective) (truth : Nat → Bool) (n : Nat) : List Predicate → Bool
  | [] => op.neutral
  | p :: rest =>
      if p.leaves.isEmpty then meaningOf op truth n rest
      else op.apply (p.meaning truth n) (meaningOf op truth (n + (p.atoms w).length) rest)

end

mutual

/-- Whether a tree, in an outermost place or elsewhere, is written with an OR outside parentheses. -/
def loose (place : Option Bool) : Predicate → Bool
  | group op members marked =>
      let outermost := place.getD marked
      let own := memberPlace outermost members
      if own.isSome then anyLoose own members
      else outermost && (op == .or || anyLoose own members)
  | holds field => Segment.loose (w.parts field)
  | _ => false

def anyLoose (place : Option Bool) : List Predicate → Bool
  | [] => false
  | p :: rest => !p.isEmpty && p.loose place || anyLoose place rest

end

mutual

/-- No group joins several members by AND of which one has an OR outside parentheses. -/
def guarded : Predicate → Bool
  | group op members _ =>
      allGuarded members &&
        (op == .or || (memberPlace true members).isSome || !anyLoose w none members)
  | not inner => inner.guarded
  | _ => true

def allGuarded : List Predicate → Bool
  | [] => true
  | p :: rest => (p.isEmpty || p.guarded) && allGuarded rest

end

/-- Every leaf in the caller's own words is a phrase. -/
def Phrased (p : Predicate) : Prop :=
  ∀ field, holds field ∈ p.leaves → Phrase (field.script d bare) (w.parts field) (w.reading field)

section Kept

variable (op : Connective) (members : List Predicate)

theorem atoms_group (marked : Bool) :
    (group op members marked).atoms w = (kept members).flatMap (·.atoms w) := by
  rw [atoms, leaves, ← leavesOf_kept, leavesOf_eq_flatMap, List.flatMap_assoc]
  rfl

theorem meaningOf_kept (truth : Nat → Bool) (n : Nat) :
    meaningOf w op truth n (kept members) = meaningOf w op truth n members := by
  induction members generalizing n with
  | nil => rfl
  | cons p rest ih =>
      rw [kept_cons]
      by_cases none : p.leaves = []
      · simpa [meaningOf, none] using ih n
      · simp [meaningOf, none, ih]

theorem anyLoose_eq (place : Option Bool) :
    anyLoose w place members = (kept members).any (·.loose w place) := by
  induction members with
  | nil => rfl
  | cons p rest ih => cases empty : p.isEmpty <;> simp [anyLoose, kept, ih, empty]

theorem allGuarded_eq : allGuarded w members = (kept members).all (·.guarded w) := by
  induction members with
  | nil => rfl
  | cons p rest ih => cases empty : p.isEmpty <;> simp [allGuarded, kept, ih, empty]

/-- A lone member takes the place of its group, and several are loose with a group that is written
without parentheses. -/
theorem loose_group (place : Option Bool) (marked : Bool) :
    (group op members marked).loose w place =
      match kept members with
      | [p] => p.loose w (some (place.getD marked))
      | several => place.getD marked && (op == .or || several.any (·.loose w none)) := by
  simp only [loose, anyLoose_eq, memberPlace_eq]
  rcases kept members with _ | ⟨p, _ | ⟨next, rest⟩⟩
  · simp
  · simp
  · simp

theorem guarded_group (marked : Bool) :
    (group op members marked).guarded w = true ↔
      (∀ p ∈ kept members, p.guarded w = true) ∧
        (op = .and → (kept members).length ≠ 1 → ∀ p ∈ kept members, p.loose w none = false) := by
  simp only [guarded, allGuarded_eq, anyLoose_eq, memberPlace_eq]
  by_cases lone : (kept members).length = 1
  · simp [lone]
  · cases op with
    | and => simp [lone]
    | or => simp

end Kept

end Predicate

namespace Condition

/-- The script writes the atoms between signs, and these are read back as a member of every group
that the connective joins. -/
def Member (op : Connective) (s : Script) (atoms : List Script)
    (value : (Nat → Bool) → Nat → Bool) : Prop :=
  ∃ segments, Spells s segments ∧ Segment.atoms segments = atoms ∧ ReadsMember segments value op

variable {op : Connective} {s : Script} {atoms : List Script} {value : (Nat → Bool) → Nat → Bool}

theorem Member.whole (member : Member op s atoms value) : Whole s atoms value := by
  obtain ⟨segments, spells, same, reads⟩ := member
  exact ⟨segments, spells, same, reads.whole⟩

theorem Member.of_conjunct (member : Member .and s atoms value) (op : Connective) :
    Member op s atoms value := by
  obtain ⟨segments, spells, same, reads⟩ := member
  exact ⟨segments, spells, same, reads.of_conjunct op⟩

theorem Operand.member (operand : Operand s atoms value) (op : Connective) :
    Member op s atoms value := by
  obtain ⟨segments, spells, same, reads⟩ := operand
  exact ⟨segments, spells, same, reads.conjunct.of_conjunct op⟩

theorem Member.joined {d : Dialect} {bare : List String} {w : Wording d bare} {op : Connective}
    {members : List Predicate} (filled : members ≠ []) (each : ∀ p ∈ members, p.leaves ≠ [] ∧
      (p.script d bare none).fault = none ∧
      Member op (p.script d bare none) (p.atoms w) fun truth n => p.meaning w truth n) :
    Member op (.separated op.separator (members.map (·.script d bare none)))
      (members.flatMap (·.atoms w)) fun truth n => Predicate.meaningOf w op truth n members := by
  induction members with
  | nil => exact absurd rfl filled
  | cons p rest ih =>
      obtain ⟨⟨some, ok, segments, spells, same, reads⟩, others⟩ := List.forall_mem_cons.mp each
      cases rest with
      | nil =>
          refine ⟨segments, spells, ?_, ?_⟩
          · simpa using same
          · simpa [Predicate.meaningOf, some] using reads
      | cons next rest =>
          obtain ⟨behind, spelled, atoms, more⟩ := ih (List.cons_ne_nil _ _) others
          have sign : Spells (.text op.separator) [.sign op.sign] := by
            rw [op.separator_eq]
            exact Spells.sign op.sign
          refine ⟨segments ++ [.sign op.sign] ++ behind, ?_, ?_, ?_⟩
          · apply (spells.append ok sign).append _ spelled
            rw [Script.fault_append, ok]
            rfl
          · rw [Segment.atoms_append, Segment.atoms_append, same, atoms]
            simp [Segment.atoms]
          · have followed := reads.followed more
            have value : (fun truth n => Predicate.meaningOf w op truth n (p :: next :: rest)) =
                fun truth n => op.apply (p.meaning w truth n)
                  (Predicate.meaningOf w op truth (n + (p.atoms w).length) (next :: rest)) := by
              funext truth n
              rw [Predicate.meaningOf, if_neg (by simpa using some)]
            rw [value, ← same]
            exact followed

end Condition

namespace Predicate

variable {d : Dialect} {bare : List String} {w : Wording d bare}

/-- How a tree is read back where it stands: as a member of any group, or only of one joined by OR
if it is loose there. -/
def ReadIn (w : Wording d bare) (place : Option Bool) (p : Predicate) : Prop :=
  Member (if p.loose w place then .or else .and) (p.script d bare place) (p.atoms w)
    fun truth n => p.meaning w truth n

theorem ReadIn.member {place : Option Bool} {p : Predicate} (read : p.ReadIn w place)
    {op : Connective} (fits : op = .and → p.loose w place = false) :
    Member op (p.script d bare place) (p.atoms w) fun truth n => p.meaning w truth n := by
  rw [ReadIn] at read
  cases op with
  | and =>
      rw [fits rfl] at read
      exact read
  | or =>
      cases loose : p.loose w place with
      | true =>
          rw [loose] at read
          exact read
      | false =>
          rw [loose] at read
          exact Member.of_conjunct read .or

theorem ReadIn.group {op : Connective} {members : List Predicate} {marked : Bool}
    {place : Option Bool} (filled : leavesOf members ≠ [])
    (guarded : (Predicate.group op members marked).guarded w = true)
    (ok : ((Predicate.group op members marked).script d bare place).fault = none)
    (each : ∀ p ∈ kept members, ∀ place, (p.script d bare place).fault = none →
      p.ReadIn w place) : (Predicate.group op members marked).ReadIn w place := by
  have meaning : (fun truth n => (Predicate.group op members marked).meaning w truth n) =
      fun truth n => meaningOf w op truth n (kept members) := by
    funext truth n
    rw [meaningOf_kept]
    rfl
  have leafy : ∀ p ∈ kept members, p.leaves ≠ [] := fun p member =>
    (leaves_ne_nil_of_kept member).2
  have fits := (guarded_group w op members marked).mp guarded |>.2
  rw [ReadIn, meaning, atoms_group, loose_group]
  rw [← leavesOf_kept] at filled
  rw [script_group] at ok ⊢
  generalize kept members = list at filled leafy each fits ok ⊢
  rcases list with _ | ⟨p, _ | ⟨next, rest⟩⟩
  · exact absurd rfl filled
  · have own := each p List.mem_cons_self (some (place.getD marked)) ok
    have lone : (fun truth n => meaningOf w op truth n [p]) =
        fun truth n => p.meaning w truth n := by
      funext truth n
      simp [meaningOf, leafy p List.mem_cons_self]
    rw [lone, List.flatMap_singleton]
    exact own
  · have inside := Script.fault_of_parens_if ok
    have parts : ∀ m ∈ p :: next :: rest, m.leaves ≠ [] ∧ (m.script d bare none).fault = none ∧
        Member op (m.script d bare none) (m.atoms w) fun truth n => m.meaning w truth n := by
      intro m member
      have written := Script.separated_isOk inside _ (List.mem_map_of_mem member)
      refine ⟨leafy m member, written, (each m member none written).member ?_⟩
      intro conjunctive
      exact fits conjunctive (by simp) m member
    have joined := Member.joined (List.cons_ne_nil _ _) parts
    cases place.getD marked with
    | false => exact (joined.whole.parens inside).member .and
    | true =>
        cases op with
        | or => exact joined
        | and =>
            have tight : (p :: next :: rest).any (·.loose w none) = false := by
              rw [List.any_eq_false]
              intro m member
              simp [fits rfl (by simp) m member]
            simp only [tight]
            exact joined

theorem readIn (p : Predicate) (phrased : p.Phrased w) (guarded : p.guarded w = true)
    (filled : p.leaves ≠ []) (place : Option Bool) (ok : (p.script d bare place).fault = none) :
    p.ReadIn w place := by
  induction p using structural generalizing place with
  | leaf p leaf =>
      cases p with
      | holds field =>
          have phrase := phrased field (List.mem_singleton_self _)
          refine ⟨w.parts field, phrase.spells, ?_, ?_⟩
          · simp [atoms, leaves, segments]
          · cases loose : Segment.loose (w.parts field) with
            | true =>
                rw [Predicate.loose, loose]
                exact phrase.disjunct
            | false =>
                rw [Predicate.loose, loose]
                exact phrase.conjunct loose
      | not inner => exact absurd leaf Bool.false_ne_true
      | group op members marked => exact absurd leaf Bool.false_ne_true
      | _ => exact (Operand.leaf _).member _
  | negation inner ih =>
      have written : (Predicate.not inner).script d bare place =
          .text "NOT (" ++ inner.script d bare none ++ .text ")" := by
        have inside : inner.leaves ≠ [] := filled
        exact script_not inside place
      rw [written] at ok
      have inside := (Script.append_isOk (Script.append_isOk ok).1).2
      have own : Member _ _ _ _ := ih phrased guarded filled none inside
      rw [ReadIn, written]
      exact (own.whole.negation inside).member _
  | grouped op members marked ih =>
      apply ReadIn.group filled guarded ok
      intro p member place ok
      obtain ⟨present, leafy⟩ := leaves_ne_nil_of_kept member
      have own : p.Phrased w := by
        intro field among
        apply phrased field
        rw [leaves, leavesOf_eq_flatMap]
        exact List.mem_flatMap.mpr ⟨p, present, among⟩
      exact ih p present own (((guarded_group w op members marked).mp guarded).1 p member) leafy
        place ok

theorem leaves_isOk (p : Predicate) (place : Option Bool)
    (ok : (p.script d bare place).fault = none) :
    ∀ leaf ∈ p.leaves, leaf.isLeaf = true ∧ (leaf.script d bare none).fault = none := by
  induction p using structural generalizing place with
  | leaf p leaf =>
      rw [leaves_of_isLeaf leaf]
      rw [script_of_isLeaf leaf place] at ok
      exact List.forall_mem_singleton.mpr ⟨leaf, ok⟩
  | negation inner ih =>
      by_cases filled : inner.leaves = []
      · rw [leaves, filled]
        exact List.forall_mem_nil _
      · rw [script_not filled place] at ok
        exact ih none (Script.append_isOk (Script.append_isOk ok).1).2
  | grouped op members marked ih =>
      intro leaf member
      rw [leaves, ← leavesOf_kept, leavesOf_eq_flatMap] at member
      obtain ⟨p, present, within⟩ := List.mem_flatMap.mp member
      obtain ⟨own, written⟩ := group_isOk ok p present
      exact ih p (leaves_ne_nil_of_kept present).1 own written leaf within

theorem atoms_worded {p : Predicate} {place : Option Bool} (phrased : p.Phrased w)
    (ok : (p.script d bare place).fault = none) : ∀ atom ∈ p.atoms w, Worded atom := by
  intro atom member
  obtain ⟨leaf, present, within⟩ := List.mem_flatMap.mp member
  obtain ⟨simple, written⟩ := leaves_isOk p place ok leaf present
  cases leaf with
  | holds field => exact (phrased field present).worded atom within
  | not inner => exact absurd simple Bool.false_ne_true
  | group op members marked => exact absurd simple Bool.false_ne_true
  | _ =>
      obtain rfl := List.mem_singleton.mp within
      exact worded_of_isLeaf rfl rfl written

/-- The text of a guarded tree with a leaf is read back as what the tree means. -/
theorem read_back {r : Renderer} {w : Wording r.dialect bare} {p : Predicate}
    {place : Option Bool} (phrased : p.Phrased w) (guarded : p.guarded w = true)
    (filled : p.leaves ≠ []) (ok : (p.script r.dialect bare place).fault = none) :
    ∃ c, Condition.read? (r.writtenEach (p.atoms w)) (r.written (p.script r.dialect bare place)) =
        some c ∧
      ∀ truth, c.value truth = p.meaning w truth 0 := by
  have read : Member _ _ _ _ := p.readIn phrased guarded filled place ok
  obtain ⟨segments, spells, same, reads⟩ := read.whole
  obtain ⟨level, c, value, run⟩ := reads 0
  have worded := atoms_worded phrased ok
  rw [← same] at worded ⊢
  refine ⟨level.closed c, ?_, value⟩
  rw [spells.read? worded, ofTokens?, run, Option.bind_some, Reader.result?]

/-- A tree in which the caller's own texts are conditions adds some text to any renderer, in an
outermost place or elsewhere. That text is empty if the tree has no leaf. Else, if no group joins
several members by AND of which one has an OR outside parentheses, it is read back as a condition
that is as true as the tree with each of those texts read by itself, whatever the truth of the atoms. -/
theorem guarded_keeps_meaning (p : Predicate) (r : Renderer) (bare : List String)
    (place : Option Bool) (w : Wording r.dialect bare) (phrased : p.Phrased w)
    (guarded : p.guarded w = true) (ok : (p.script r.dialect bare place).fault = none) :
    ∃ text, (r.write (p.script r.dialect bare place)).sql.toList = r.sql.toList ++ text ∧
      (p.leaves = [] → text = []) ∧
      (p.leaves ≠ [] → ∃ c, Condition.read? (r.writtenEach (p.atoms w)) text = some c ∧
        ∀ truth, c.value truth = p.meaning w truth 0) := by
  refine ⟨_, r.write_sql _, ?_, ?_⟩
  · intro none
    rw [script_of_leaves_eq_nil none, Renderer.written_empty]
  · intro filled
    exact read_back phrased guarded filled ok

/-- A condition in the caller's own words between two of its kind: `a OR b` keeps its meaning inside
a negation and inside a group joined by OR, `x AND y` in any group. -/
theorem guarded_keeps_meaning_nested :
    let either := Field.raw "a OR b"
    let both := Field.raw "x AND y"
    let letter (s : String) : Segment := .atom (.text s)
    let w : Wording .postgres [] :=
      { parts := fun f => match f.expr with
          | .template "a OR b" _ => [letter "a", .sign .or, letter "b"]
          | _ => [letter "x", .sign .and, letter "y"]
        reading := fun f => match f.expr with
          | .template "a OR b" _ => .either (.atom 0) (.atom 1)
          | _ => .both (.atom 0) (.atom 1) }
    let p : Predicate := .group .and
      [.group .or [.holds either, .isNull (.bare "n") false] false, .holds both,
        .not (.holds either)] true
    p.Phrased w ∧ p.guarded w = true ∧ (p.script .postgres [] none).fault = none ∧
      ∃ text c, ((Renderer.new .postgres).write (p.script .postgres [] none)).sql.toList = text ∧
        Condition.read? ["a".toList, "b".toList, "n IS NULL".toList, "x".toList, "y".toList,
          "a".toList, "b".toList] text = some c ∧
        ∀ truth, c.value truth = ((truth 0 || truth 1 || truth 2) && ((truth 3 && truth 4) &&
          !(truth 5 || truth 6))) := by
  intro either both letter w p
  have worded {s : String} (other : s.toList.all Sign.holds = false) : Worded (.text s) :=
    worded_of_piece (List.mem_singleton_self _) other
  have divided : Phrase (either.script .postgres []) [letter "a", .sign .or, letter "b"]
      (.either (.atom 0) (.atom 1)) := by
    apply Spells.phrase
    · intro r
      have pushed : ((r.push "a").push " OR ").push "b" = r.push "a OR b" := by
        simp [Renderer.push, String.append_assoc]
      exact pushed.symm
    · exact List.forall_mem_cons.mpr
        ⟨worded (by decide), List.forall_mem_singleton.mpr (worded (by decide))⟩
    · rfl
  have joined : Phrase (both.script .postgres []) [letter "x", .sign .and, letter "y"]
      (.both (.atom 0) (.atom 1)) := by
    apply Spells.phrase
    · intro r
      have pushed : ((r.push "x").push " AND ").push "y" = r.push "x AND y" := by
        simp [Renderer.push, String.append_assoc]
      exact pushed.symm
    · exact List.forall_mem_cons.mpr
        ⟨worded (by decide), List.forall_mem_singleton.mpr (worded (by decide))⟩
    · rfl
  have phrased : p.Phrased w := by
    intro field member
    have known : field = either ∨ field = both := by
      simp only [p, leaves, leavesOf, List.append_nil, List.cons_append, List.nil_append,
        List.mem_cons, holds.injEq, reduceCtorEq, false_or, List.not_mem_nil, or_false] at member
      rcases member with rfl | rfl | rfl
      · exact .inl rfl
      · exact .inr rfl
      · exact .inl rfl
    rcases known with rfl | rfl
    · exact divided
    · exact joined
  obtain ⟨text, written, -, read⟩ :=
    p.guarded_keeps_meaning (Renderer.new .postgres) [] none w phrased rfl rfl
  obtain ⟨c, same, value⟩ := read (by decide)
  refine ⟨phrased, rfl, rfl, text, c, written, same, ?_⟩
  intro truth
  rw [value]
  simp [p, w, either, both, meaning, meaningOf, atoms, segments, letter, leaves, leavesOf,
    Segment.atoms, Connective.apply, Connective.neutral, Condition.value, truthFrom, Field.raw,
    Field.template, Field.ofExpr, Bool.or_assoc]

/-- A group joined by AND is read back as another condition if a member has an OR outside
parentheses: `id = ? AND a OR b` holds of rows with other numbers. -/
theorem loose_member_regrouped :
    let both : Predicate := .group .and
      [.compare (.bare "id") .eq (.value (.int 1)), .holds (.raw "a OR b")] true
    ((Renderer.new .sqlite).write (both.script .sqlite [] none)).sql = "id = ? AND a OR b" ∧
      Condition.read? ["id = ?".toList] "id = ?".toList = some (.atom 0) ∧
      Condition.read? ["a".toList, "b".toList] "a OR b".toList =
        some (.either (.atom 0) (.atom 1)) ∧
      ∃ c, Condition.read? ["id = ?".toList, "a".toList, "b".toList] "id = ? AND a OR b".toList =
          some c ∧
        ∃ truth, c.value truth = true ∧ (truth 0 && (truth 1 || truth 2)) = false := by
  refine ⟨?_, ?_, ?_, .either (.both (.atom 0) (.atom 1)) (.atom 2), ?_, fun n => n == 2, rfl, rfl⟩
  · decide +kernel
  · cbv
  · cbv
  · cbv

/-! ### Clauses -/

theorem conditions_eq (keyword : String) {list : List Predicate} (filled : leavesOf list ≠ []) :
    Script.conditions keyword (scripts d [] (memberPlace true list) list) =
      .text keyword ++ (Predicate.group .and list true).script d [] none := by
  have some : (scripts d [] (memberPlace true list) list).isEmpty = false := by
    rw [scripts_eq_kept, List.isEmpty_map, List.isEmpty_eq_false_iff]
    intro none
    rw [← leavesOf_kept, none] at filled
    exact filled rfl
  rw [Script.conditions, some]
  rfl

theorem guarded_append {earlier more : List Predicate} {marked : Bool}
    (guarded : (Predicate.group .and (earlier ++ more) marked).guarded w = true) :
    (Predicate.group .and earlier marked).guarded w = true := by
  rw [guarded_group] at guarded ⊢
  obtain ⟨each, tight⟩ := guarded
  have split : kept (earlier ++ more) = kept earlier ++ kept more := List.filter_append ..
  rw [split] at each tight
  constructor
  · intro p member
    exact each p (List.mem_append_left _ member)
  · intro conjunctive several p member
    have filled : 0 < (kept earlier).length := List.length_pos_of_mem member
    apply tight conjunctive _ p (List.mem_append_left _ member)
    rw [List.length_append]
    omega

theorem meaningOf_append (truth : Nat → Bool) (n : Nat) (earlier more : List Predicate)
    (holds : meaningOf w .and truth n (earlier ++ more) = true) :
    meaningOf w .and truth n earlier = true := by
  induction earlier generalizing n with
  | nil => rfl
  | cons p rest ih =>
      rw [List.cons_append, meaningOf] at holds
      rw [meaningOf]
      split at holds
      · next none =>
        rw [if_pos none]
        exact ih n holds
      · next some =>
        rw [if_neg some]
        obtain ⟨own, others⟩ := Bool.and_eq_true_iff.mp holds
        exact Bool.and_eq_true_iff.mpr ⟨own, ih _ others⟩

/-- More conditions in a clause only narrow what it holds of: the longer clause is read back as a
condition that implies what the shorter one is read back as, its atoms being the first of the longer
one. -/
theorem conditions_narrow (keyword : String) (earlier more : List Predicate) (r : Renderer)
    (w : Wording r.dialect []) (filled : leavesOf earlier ≠ [])
    (phrased : (Predicate.group .and (earlier ++ more) true).Phrased w)
    (guarded : (Predicate.group .and (earlier ++ more) true).guarded w = true) :
    let clause (list : List Predicate) : Script :=
      .conditions keyword (scripts r.dialect [] (memberPlace true list) list)
    let atoms (list : List Predicate) := (Predicate.group .and list true).atoms w
    (clause earlier).fault = none → (clause (earlier ++ more)).fault = none →
      atoms earlier <+: atoms (earlier ++ more) ∧ ∃ short long wide narrow,
        (r.write (clause earlier)).sql.toList = r.sql.toList ++ (keyword.toList ++ short) ∧
        (r.write (clause (earlier ++ more))).sql.toList = r.sql.toList ++ (keyword.toList ++ long) ∧
        Condition.read? (r.writtenEach (atoms earlier)) short = some wide ∧
        Condition.read? (r.writtenEach (atoms (earlier ++ more))) long = some narrow ∧
        ∀ truth, narrow.value truth = true → wide.value truth = true := by
  intro clause atoms okShort okLong
  have filledLong : leavesOf (earlier ++ more) ≠ [] := by
    rw [leavesOf_append]
    exact List.append_ne_nil_of_left_ne_nil filled _
  have shortly : clause earlier = _ := conditions_eq keyword filled
  have longly : clause (earlier ++ more) = _ := conditions_eq keyword filledLong
  have phrasedShort : (Predicate.group .and earlier true).Phrased w := by
    intro field member
    apply phrased field
    rw [leaves] at member ⊢
    rw [leavesOf_append]
    exact List.mem_append_left _ member
  rw [shortly] at okShort ⊢
  rw [longly] at okLong ⊢
  obtain ⟨wide, readShort, wideValue⟩ :=
    read_back phrasedShort (guarded_append guarded) filled (Script.append_isOk okShort).2
  obtain ⟨narrow, readLong, narrowValue⟩ :=
    read_back phrased guarded filledLong (Script.append_isOk okLong).2
  refine ⟨?_, _, _, wide, narrow, ?_, ?_, readShort, readLong, ?_⟩
  · show (Predicate.group .and earlier true).atoms w <+:
      (Predicate.group .and (earlier ++ more) true).atoms w
    have split : kept (earlier ++ more) = kept earlier ++ kept more := List.filter_append ..
    rw [atoms_group, atoms_group, split, List.flatMap_append]
    exact List.prefix_append _ _
  · rw [r.write_sql, r.written_text_append]
  · rw [r.write_sql, r.written_text_append]
  · intro truth holds
    rw [narrowValue] at holds
    rw [wideValue]
    exact meaningOf_append truth 0 earlier more holds

end Predicate

end SqlTree
