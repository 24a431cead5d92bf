import SqlTree.Proofs.Condition.Operands

/-!
Phrases: segments that are a condition when they are read by themselves. Behind members of a group
they are read as one more member, unless the group is joined by AND and they have an OR outside
parentheses.
-/

namespace SqlTree.Condition

namespace Level

variable (truth : Nat → Bool) (l : Level) (c : Condition)

/-- The value of what stands before the last OR. -/
def disjunctValue : Bool := l.disjunct.elim false (value truth)

/-- The value of what stands between the last OR and the last AND behind it. -/
def conjunctValue : Bool := l.conjunct.elim true (value truth)

theorem conjunctValue_of_none {l : Level} (none : l.conjunct = none) :
    l.conjunctValue truth = true := by
  rw [conjunctValue, none]
  rfl

theorem value_conjoined : (l.conjoined c).value truth = (l.conjunctValue truth && c.value truth) := by
  rcases l with ⟨disjunct, _ | conjunct⟩
  · rfl
  · rfl

theorem value_closed : (l.closed c).value truth =
    (l.disjunctValue truth || (l.conjunctValue truth && c.value truth)) := by
  rw [← value_conjoined]
  rcases l with ⟨_ | disjunct, conjunct⟩
  · rfl
  · rfl

end Level

namespace Reader

/-- The reader within parentheses of which the outer levels are given. -/
def within (outer : List (Nat × Level)) : Reader → Reader
  | before nots l inner => before nots l (inner ++ outer)
  | behind l c inner => behind l c (inner ++ outer)

theorem step_within {r next : Reader} {t : Token} (stepped : r.step t = some next)
    (outer : List (Nat × Level)) : (r.within outer).step t = some (next.within outer) := by
  cases r with
  | before nots l inner =>
      cases t with
      | atom n => exact congrArg (Option.map (within outer)) stepped
      | sign s => cases s <;> exact congrArg (Option.map (within outer)) stepped
  | behind l c inner =>
      cases t with
      | atom n => exact congrArg (Option.map (within outer)) stepped
      | sign s =>
          cases s with
          | closing =>
              cases inner with
              | nil => exact nomatch stepped
              | cons next inner => exact congrArg (Option.map (within outer)) stepped
          | _ => exact congrArg (Option.map (within outer)) stepped

theorem run_within {tokens : List Token} {r last : Reader} (ran : r.run tokens = some last)
    (outer : List (Nat × Level)) : (r.within outer).run tokens = some (last.within outer) := by
  induction tokens generalizing r with
  | nil =>
      obtain rfl : r = last := Option.some.inj ran
      rfl
  | cons t rest ih =>
      obtain ⟨next, stepped, others⟩ := Option.bind_eq_some_iff.mp ran
      exact Option.bind_eq_some_iff.mpr ⟨next.within outer, step_within stepped outer, ih others⟩

end Reader

/-! ### Reading behind a level

The same tokens are read twice: by themselves, and behind a level `first`, with their atoms numbered
from `n`. The two readers do the same steps. -/

def Token.shift (n : Nat) : Token → Token
  | .sign s => .sign s
  | .atom m => .atom (n + m)

theorem Segment.tokens_shift (n m : Nat) (segments : List Segment) :
    Segment.tokens (n + m) segments = (Segment.tokens m segments).map (Token.shift n) := by
  induction segments generalizing m with
  | nil => rfl
  | cons first rest ih =>
      cases first with
      | sign s => rw [tokens, tokens, List.map_cons, ih, Token.shift]
      | atom s => rw [tokens, tokens, List.map_cons, Nat.add_assoc, ih, Token.shift]

def truthFrom (n : Nat) (truth : Nat → Bool) : Nat → Bool := fun m => truth (n + m)

section Following

variable (n : Nat) (first : Level)

def Shifted (c shifted : Condition) : Prop :=
  ∀ truth, shifted.value truth = c.value (truthFrom n truth)

/-- A level holds what another one holds and, before that, what `first` holds. This is all that
can be said as long as no OR has split `first`. -/
def Level.Continues (l : Level) (n : Nat) (first behind : Level) : Prop :=
  first.conjunct = none ∨ l.disjunct = none → ∀ truth,
    behind.disjunctValue truth =
        (first.disjunctValue truth || l.disjunctValue (truthFrom n truth)) ∧
      behind.conjunctValue truth =
        (first.conjunctValue truth && l.conjunctValue (truthFrom n truth))

inductive Stacked : Level → List (Nat × Level) → Level → List (Nat × Level) → Prop
  | outermost {l behind : Level} : l.Continues n first behind → Stacked l [] behind []
  | inner {l behind next nextBehind : Level} {outer outerBehind : List (Nat × Level)} (nots : Nat) :
      l.Continues n .start behind → Stacked next outer nextBehind outerBehind →
      Stacked l ((nots, next) :: outer) behind ((nots, nextBehind) :: outerBehind)

inductive Following : Reader → Reader → Prop
  | before {l behind : Level} {outer outerBehind : List (Nat × Level)} (nots : Nat) :
      Stacked n first l outer behind outerBehind →
      Following (.before nots l outer) (.before nots behind outerBehind)
  | behind {l behind : Level} {outer outerBehind : List (Nat × Level)} {c shifted : Condition} :
      Stacked n first l outer behind outerBehind → Shifted n c shifted →
      Following (.behind l c outer) (.behind behind shifted outerBehind)

variable {n : Nat} {first : Level}

theorem Shifted.negated {c shifted : Condition} (same : Shifted n c shifted) (nots : Nat) :
    Shifted n (negated nots c) (negated nots shifted) := by
  induction nots generalizing c shifted with
  | zero => exact same
  | succ nots ih =>
      apply ih
      intro truth
      rw [value, value, same]

theorem Level.continues_start : Level.start.Continues n first first := by
  intro _ truth
  simp [start, disjunctValue, conjunctValue]

namespace Level.Continues

variable {l behind : Level} {c shifted : Condition}

theorem conjoin (continues : l.Continues n first behind) (same : Shifted n c shifted) :
    Level.Continues ⟨l.disjunct, some (l.conjoined c)⟩ n first
      ⟨behind.disjunct, some (behind.conjoined shifted)⟩ := by
  intro unsplit truth
  obtain ⟨disjuncts, conjuncts⟩ := continues unsplit truth
  constructor
  · exact disjuncts
  · show (behind.conjoined shifted).value truth =
      (first.conjunctValue truth && (l.conjoined c).value (truthFrom n truth))
    rw [value_conjoined, value_conjoined, conjuncts, same, Bool.and_assoc]

theorem closed (continues : l.Continues n first behind) (same : Shifted n c shifted)
    (alone : first.conjunct = none) (truth : Nat → Bool) :
    (behind.closed shifted).value truth =
      (first.disjunctValue truth || (l.closed c).value (truthFrom n truth)) := by
  have whole := conjunctValue_of_none truth alone
  obtain ⟨disjuncts, conjuncts⟩ := continues (.inl alone) truth
  rw [value_closed, value_closed, disjuncts, conjuncts, same, whole, Bool.true_and, Bool.or_assoc]

theorem split (continues : l.Continues n first behind) (same : Shifted n c shifted) :
    Level.Continues ⟨some (l.closed c), none⟩ n first ⟨some (behind.closed shifted), none⟩ := by
  intro unsplit truth
  -- the OR is a disjunct now, so nothing but an OR stands before it
  have alone : first.conjunct = none := unsplit.resolve_right nofun
  constructor
  · exact continues.closed same alone truth
  · show true = (first.conjunctValue truth && true)
    rw [conjunctValue_of_none truth alone, Bool.true_and]

end Level.Continues

theorem Following.step {r following next : Reader} {t : Token} (same : Following n first r following)
    (stepped : r.step t = some next) :
    ∃ nextFollowing, following.step (t.shift n) = some nextFollowing ∧
      Following n first next nextFollowing := by
  cases same with
  | before nots stack =>
      cases t with
      | atom m =>
          obtain rfl := Option.some.inj stepped
          refine ⟨_, rfl, .behind stack (Shifted.negated ?_ nots)⟩
          exact fun _ => rfl
      | sign s =>
          cases s with
          | opening =>
              obtain rfl := Option.some.inj stepped
              exact ⟨_, rfl, .before 0 (.inner nots Level.continues_start stack)⟩
          | not =>
              obtain rfl := Option.some.inj stepped
              exact ⟨_, rfl, .before (nots + 1) stack⟩
          | closing => exact nomatch stepped
          | and => exact nomatch stepped
          | or => exact nomatch stepped
  | behind stack operand =>
      cases t with
      | atom m => exact nomatch stepped
      | sign s =>
          cases s with
          | and =>
              obtain rfl := Option.some.inj stepped
              refine ⟨_, rfl, .before 0 ?_⟩
              cases stack with
              | outermost continues => exact .outermost (continues.conjoin operand)
              | inner nots continues outer => exact .inner nots (continues.conjoin operand) outer
          | or =>
              obtain rfl := Option.some.inj stepped
              refine ⟨_, rfl, .before 0 ?_⟩
              cases stack with
              | outermost continues => exact .outermost (continues.split operand)
              | inner nots continues outer => exact .inner nots (continues.split operand) outer
          | closing =>
              -- by itself, the reader has no parenthesis of its own to close at the outermost level
              cases stack with
              | outermost continues => exact nomatch stepped
              | inner nots continues outer =>
                  obtain rfl := Option.some.inj stepped
                  refine ⟨_, rfl, .behind outer (Shifted.negated ?_ nots)⟩
                  intro truth
                  exact continues.closed operand rfl truth
          | opening => exact nomatch stepped
          | not => exact nomatch stepped

theorem Following.run {tokens : List Token} {r following last : Reader}
    (same : Following n first r following) (ran : r.run tokens = some last) :
    ∃ lastFollowing, following.run (tokens.map (Token.shift n)) = some lastFollowing ∧
      Following n first last lastFollowing := by
  induction tokens generalizing r following with
  | nil =>
      obtain rfl : r = last := Option.some.inj ran
      exact ⟨following, rfl, same⟩
  | cons t rest ih =>
      obtain ⟨next, stepped, others⟩ := Option.bind_eq_some_iff.mp ran
      obtain ⟨nextFollowing, own, after⟩ := same.step stepped
      obtain ⟨lastFollowing, later, ended⟩ := ih after others
      refine ⟨lastFollowing, ?_, ended⟩
      exact Option.bind_eq_some_iff.mpr ⟨nextFollowing, own, later⟩

/-- What is read to its end by itself is read to its end behind any level. -/
theorem run_behind {segments : List Segment} {l : Level} {c : Condition}
    (ran : (Reader.before 0 .start []).run (Segment.tokens 0 segments) = some (.behind l c [])) :
    ∃ behind shifted, (Reader.before 0 first []).run (Segment.tokens n segments) =
        some (.behind behind shifted []) ∧
      l.Continues n first behind ∧ Shifted n c shifted := by
  have start : Following n first (.before 0 .start []) (.before 0 first []) :=
    .before 0 (.outermost Level.continues_start)
  obtain ⟨last, following, same⟩ := start.run ran
  rw [← Segment.tokens_shift, Nat.add_zero] at following
  cases same with
  | behind stack operand =>
      cases stack with
      | outermost continues => exact ⟨_, _, following, continues, operand⟩

end Following

/-! ### Members -/

/-- Behind members of a group that its connective joins, the tokens are read as one more. In a group
joined by OR nothing but an OR may stand before them. -/
def ReadsMember (segments : List Segment) (value : (Nat → Bool) → Nat → Bool) : Connective → Prop
  | .and => ∀ n first, ∃ l c,
      (Reader.before 0 first []).run (Segment.tokens n segments) = some (.behind l c []) ∧
      ∀ truth, l.disjunctValue truth = first.disjunctValue truth ∧
        (l.conjunctValue truth && c.value truth) = (first.conjunctValue truth && value truth n)
  | .or => ∀ n first, first.conjunct = none → ∃ l c,
      (Reader.before 0 first []).run (Segment.tokens n segments) = some (.behind l c []) ∧
      ∀ truth, (l.closed c).value truth = (first.disjunctValue truth || value truth n)

section Members

variable {segments others : List Segment} {value rest : (Nat → Bool) → Nat → Bool}

theorem ReadsMember.disjunct (reads : ReadsMember segments value .and) :
    ReadsMember segments value .or := by
  intro n first alone
  obtain ⟨l, c, run, same⟩ := reads n first
  refine ⟨l, c, run, ?_⟩
  intro truth
  obtain ⟨disjuncts, conjuncts⟩ := same truth
  rw [Level.value_closed, disjuncts, conjuncts, Level.conjunctValue_of_none truth alone,
    Bool.true_and]

theorem ReadsMember.of_conjunct (reads : ReadsMember segments value .and) (op : Connective) :
    ReadsMember segments value op := by
  cases op with
  | and => exact reads
  | or => exact reads.disjunct

theorem ReadsMember.whole {op : Connective} (reads : ReadsMember segments value op) :
    ReadsWhole segments value := by
  have disjunct : ReadsMember segments value .or := by
    cases op with
    | and => exact reads.disjunct
    | or => exact reads
  intro n
  obtain ⟨l, c, run, same⟩ := disjunct n .start rfl
  refine ⟨l, c, ?_, Reader.run_within run⟩
  intro truth
  exact same truth

theorem ReadsOperand.conjunct (reads : ReadsOperand segments value) :
    ReadsMember segments value .and := by
  intro n first
  obtain ⟨c, same, run⟩ := reads n
  refine ⟨first, c, run 0 first [], ?_⟩
  intro truth
  rw [same]
  exact ⟨rfl, rfl⟩

theorem ReadsMember.followed {op : Connective} (reads : ReadsMember segments value op)
    (more : ReadsMember others rest op) :
    ReadsMember (segments ++ [.sign op.sign] ++ others) (fun truth n =>
      op.apply (value truth n) (rest truth (n + (Segment.atoms segments).length))) op := by
  have joined (n : Nat) (first : Level) {l : Level} {c : Condition}
      (run : (Reader.before 0 first []).run (Segment.tokens n segments) = some (.behind l c [])) :
      (Reader.before 0 first []).run (Segment.tokens n (segments ++ [.sign op.sign] ++ others)) =
        ((Reader.behind l c []).step (.sign op.sign)).bind
          (·.run (Segment.tokens (n + (Segment.atoms segments).length) others)) := by
    rw [List.append_assoc, Segment.tokens_append, Reader.run_append, run, Option.bind_some]
    rfl
  cases op with
  | and =>
      intro n first
      obtain ⟨l, c, run, same⟩ := reads n first
      obtain ⟨last, final, ran, combined⟩ :=
        more (n + (Segment.atoms segments).length) ⟨l.disjunct, some (l.conjoined c)⟩
      refine ⟨last, final, (joined n first run).trans ran, ?_⟩
      intro truth
      obtain ⟨disjuncts, conjuncts⟩ := same truth
      obtain ⟨lastDisjuncts, lastConjuncts⟩ := combined truth
      constructor
      · exact lastDisjuncts.trans disjuncts
      · have own : Level.conjunctValue truth ⟨l.disjunct, some (l.conjoined c)⟩ =
            (first.conjunctValue truth && value truth n) := by
          rw [← conjuncts, ← Level.value_conjoined]
          rfl
        rw [lastConjuncts, own, Bool.and_assoc]
        rfl
  | or =>
      intro n first alone
      obtain ⟨l, c, run, same⟩ := reads n first alone
      obtain ⟨last, final, ran, combined⟩ :=
        more (n + (Segment.atoms segments).length) ⟨some (l.closed c), none⟩ rfl
      refine ⟨last, final, (joined n first run).trans ran, ?_⟩
      intro truth
      have own : Level.disjunctValue truth ⟨some (l.closed c), none⟩ =
          (first.disjunctValue truth || value truth n) := same truth
      rw [combined, own, Bool.or_assoc]
      rfl

end Members

/-! ### Phrases -/

/-- Whether segments that are read by themselves have an OR outside parentheses. -/
def Segment.loose (segments : List Segment) : Bool :=
  match (Reader.before 0 .start []).run (Segment.tokens 0 segments) with
  | some (.behind l _ _) => l.disjunct.isSome
  | _ => false

/-- A script that writes a condition of its own: signs, and atoms that no sign could be taken for.
Wherever it is written, its text by itself is read as the condition. -/
structure Phrase (s : Script) (segments : List Segment) (c : Condition) : Prop where
  spells : Spells s segments
  worded : ∀ atom ∈ Segment.atoms segments, Worded atom
  reads : ∀ r : Renderer, read? (r.writtenEach (Segment.atoms segments)) (r.written s) = some c

/-- The text of signs and atoms is read as they are. -/
theorem Spells.read? {s : Script} {segments : List Segment} (spells : Spells s segments)
    (worded : ∀ atom ∈ Segment.atoms segments, Worded atom) (r : Renderer) :
    Condition.read? (r.writtenEach (Segment.atoms segments)) (r.written s) =
      ofTokens? (Segment.tokens 0 segments) := by
  rw [spells.written, Condition.read?, tokens?_spelled segments worded, Option.bind_some]

theorem Spells.phrase {s : Script} {segments : List Segment} {c : Condition}
    (spells : Spells s segments) (worded : ∀ atom ∈ Segment.atoms segments, Worded atom)
    (reads : ofTokens? (Segment.tokens 0 segments) = some c) : Phrase s segments c := by
  refine ⟨spells, worded, ?_⟩
  intro r
  rw [spells.read? worded, reads]

namespace Phrase

variable {s : Script} {segments : List Segment} {c : Condition}

theorem run (phrase : Phrase s segments c) : ∃ l operand, l.closed operand = c ∧
    (Reader.before 0 .start []).run (Segment.tokens 0 segments) = some (.behind l operand []) := by
  have read := phrase.reads (Renderer.new .standard)
  rw [phrase.spells.read? phrase.worded, ofTokens?, Option.bind_eq_some_iff] at read
  obtain ⟨last, ran, result⟩ := read
  rcases last with ⟨nots, l, outer⟩ | ⟨l, operand, _ | ⟨next, outer⟩⟩
  · exact nomatch result
  · exact ⟨l, operand, Option.some.inj result, ran⟩
  · exact nomatch result

theorem disjunct (phrase : Phrase s segments c) :
    ReadsMember segments (fun truth n => c.value (truthFrom n truth)) .or := by
  intro n first alone
  obtain ⟨l, operand, rfl, ran⟩ := phrase.run
  obtain ⟨behind, shifted, run, continues, same⟩ := run_behind ran
  exact ⟨behind, shifted, run, continues.closed same alone⟩

theorem conjunct (phrase : Phrase s segments c) (tight : Segment.loose segments = false) :
    ReadsMember segments (fun truth n => c.value (truthFrom n truth)) .and := by
  intro n first
  obtain ⟨l, operand, rfl, ran⟩ := phrase.run
  have undivided : l.disjunct = none := by
    rw [Segment.loose, ran] at tight
    exact Option.isNone_iff_eq_none.mp (Option.isSome_eq_false_iff.mp tight)
  obtain ⟨behind, shifted, run, continues, same⟩ := run_behind ran
  refine ⟨behind, shifted, run, ?_⟩
  intro truth
  obtain ⟨disjuncts, conjuncts⟩ := continues (.inr undivided) truth
  have before : l.disjunctValue (truthFrom n truth) = false := by
    rw [Level.disjunctValue, undivided]
    rfl
  constructor
  · rw [disjuncts, before, Bool.or_false]
  · show _ = (first.conjunctValue truth && (l.closed operand).value (truthFrom n truth))
    rw [conjuncts, same, Level.value_closed, before, Bool.false_or, Bool.and_assoc]

end Phrase

end SqlTree.Condition
