import SqlTree.Proofs.Condition.Spelling
import SqlTree.Tree.Clauses

/-!
Operands of conditions: scripts whose text is read back as one operand wherever it stands, or as
all that stands between two parentheses. Members of a group that are operands are read back as
members of one group, since nothing but its own connective stands between them.
-/

namespace SqlTree

namespace Connective

def apply : Connective → Bool → Bool → Bool
  | and, a, b => a && b
  | or, a, b => a || b

def neutral : Connective → Bool
  | and => true
  | or => false

def combine : Connective → Condition → Condition → Condition
  | and => .both
  | or => .either

def sign : Connective → Condition.Sign
  | and => .and
  | or => .or

theorem separator_eq (op : Connective) : op.separator = String.ofList op.sign.text := by
  cases op <;> rfl

@[simp] theorem apply_neutral (op : Connective) (a : Bool) : op.apply a op.neutral = a := by
  cases op <;> simp [apply, neutral]

theorem apply_assoc (op : Connective) (a b c : Bool) :
    op.apply (op.apply a b) c = op.apply a (op.apply b c) := by
  cases op
  · exact Bool.and_assoc a b c
  · exact Bool.or_assoc a b c

theorem value_combine (op : Connective) (a b : Condition) (truth : Nat → Bool) :
    (op.combine a b).value truth = op.apply (a.value truth) (b.value truth) := by
  cases op <;> rfl

end Connective

namespace Condition

def Spells (s : Script) (segments : List Segment) : Prop :=
  ∀ r : Renderer, r.write s = r.writeEach (segments.map Segment.script)

namespace Spells

theorem atom (s : Script) : Spells s [.atom s] := fun _ => rfl

theorem sign (s : Sign) : Spells (.text (String.ofList s.text)) [.sign s] := fun _ => rfl

theorem append {a b : Script} {x y : List Segment} (first : Spells a x) (ok : a.fault = none)
    (second : Spells b y) : Spells (a ++ b) (x ++ y) := by
  intro r
  rw [Renderer.write_append r ok, first r, second, List.map_append, Renderer.writeEach,
    Renderer.writeEach, Renderer.writeEach, List.foldl_append]

theorem written {s : Script} {segments : List Segment} (spells : Spells s segments)
    (r : Renderer) : r.written s = Segment.spelled r segments := by
  have whole := r.write_sql s
  rw [spells r, Renderer.writeEach_sql] at whole
  exact (List.append_cancel_left whole).symm

theorem negation : Spells (.text "NOT (") [.sign .not, .sign .opening] := by
  intro r
  have pushed : (r.push "NOT ").push "(" = r.push "NOT (" := by
    simp [Renderer.push, String.append_assoc]
  exact pushed.symm

end Spells

/-- The tokens are read as one operand with the given value, whatever stands before them. -/
def ReadsOperand (segments : List Segment) (value : (Nat → Bool) → Nat → Bool) : Prop :=
  ∀ n, ∃ c, (∀ truth, c.value truth = value truth n) ∧
    ∀ nots level outer, (Reader.before nots level outer).run (Segment.tokens n segments) =
      some (.behind level (negated nots c) outer)

def ReadsWhole (segments : List Segment) (value : (Nat → Bool) → Nat → Bool) : Prop :=
  ∀ n, ∃ level c, (∀ truth, (level.closed c).value truth = value truth n) ∧
    ∀ outer, (Reader.before 0 .start outer).run (Segment.tokens n segments) =
      some (.behind level c outer)

variable {segments : List Segment} {value : (Nat → Bool) → Nat → Bool}

theorem ReadsOperand.whole (reads : ReadsOperand segments value) : ReadsWhole segments value := by
  intro n
  obtain ⟨c, same, run⟩ := reads n
  exact ⟨.start, c, same, run 0 .start⟩

theorem ReadsOperand.atom (s : Script) : ReadsOperand [.atom s] fun truth n => truth n := by
  intro n
  exact ⟨.atom n, fun _ => rfl, fun _ _ _ => rfl⟩

theorem ReadsWhole.parens (reads : ReadsWhole segments value) :
    ReadsOperand ([.sign .opening] ++ segments ++ [.sign .closing]) value := by
  intro n
  obtain ⟨level, c, same, run⟩ := reads n
  refine ⟨level.closed c, same, ?_⟩
  intro nots next outer
  have opened : (Reader.before nots next outer).run (Segment.tokens n [.sign .opening]) =
      some (.before 0 .start ((nots, next) :: outer)) := rfl
  have inner : (Reader.before 0 .start ((nots, next) :: outer)).run
      (Segment.tokens (n + (Segment.atoms [.sign .opening]).length) segments) =
      some (.behind level c ((nots, next) :: outer)) := run _
  rw [Segment.tokens_append, Segment.tokens_append, Reader.run_append, Reader.run_append, opened,
    Option.bind_some, inner]
  rfl

theorem ReadsOperand.negation (reads : ReadsOperand segments value) :
    ReadsOperand ([.sign .not] ++ segments) fun truth n => !value truth n := by
  intro n
  obtain ⟨c, same, run⟩ := reads n
  refine ⟨.not c, fun truth => congrArg _ (same truth), ?_⟩
  intro nots level outer
  exact run (nots + 1) level outer

/-! ### Groups -/

namespace Level

/-- The level at which only members of a group stand, those before already combined. -/
def within (op : Connective) (before : Option Condition) : Level :=
  match op with
  | .and => ⟨none, before⟩
  | .or => ⟨before, none⟩

def joined (op : Connective) (before : Option Condition) (c : Condition) : Condition :=
  before.elim c (op.combine · c)

theorem within_none (op : Connective) : within op none = start := by cases op <;> rfl

theorem closed_within (op : Connective) (before : Option Condition) (c : Condition) :
    (within op before).closed c = joined op before c := by
  cases op <;> cases before <;> rfl

theorem step_within (op : Connective) (before : Option Condition) (c : Condition)
    (outer : List (Nat × Level)) :
    (Reader.behind (within op before) c outer).step (.sign op.sign) =
      some (.before 0 (within op (some (joined op before c))) outer) := by
  cases op <;> cases before <;> rfl

end Level

theorem Level.value_joined (op : Connective) (before : Option Condition) (c : Condition)
    (truth : Nat → Bool) : (joined op before c).value truth =
      before.elim (c.value truth) fun b => op.apply (b.value truth) (c.value truth) := by
  cases before with
  | none => rfl
  | some b => exact op.value_combine b c truth

def ReadsMembers (op : Connective) (segments : List Segment)
    (value : (Nat → Bool) → Nat → Bool) : Prop :=
  ∀ n before, ∃ last c,
    (∀ truth, (Level.joined op last c).value truth =
      before.elim (value truth n) fun b => op.apply (b.value truth) (value truth n)) ∧
    ∀ outer, (Reader.before 0 (Level.within op before) outer).run (Segment.tokens n segments) =
      some (.behind (Level.within op last) c outer)

theorem ReadsOperand.member (reads : ReadsOperand segments value) (op : Connective) :
    ReadsMembers op segments value := by
  intro n before
  obtain ⟨c, same, run⟩ := reads n
  refine ⟨before, c, ?_, run 0 _⟩
  intro truth
  rw [Level.value_joined, same]

theorem ReadsOperand.followed {op : Connective} {others : List Segment}
    {rest : (Nat → Bool) → Nat → Bool} (reads : ReadsOperand segments value)
    (members : ReadsMembers op others rest) :
    ReadsMembers op (segments ++ [.sign op.sign] ++ others) fun truth n =>
      op.apply (value truth n) (rest truth (n + (Segment.atoms segments).length)) := by
  intro n before
  obtain ⟨c, same, run⟩ := reads n
  obtain ⟨last, final, combined, ran⟩ :=
    members (n + (Segment.atoms segments).length) (some (Level.joined op before c))
  refine ⟨last, final, ?_, ?_⟩
  · intro truth
    rw [combined, Option.elim_some, Level.value_joined, same]
    cases before with
    | none => rfl
    | some b => exact op.apply_assoc _ _ _
  · intro outer
    have signed : (Reader.behind (Level.within op before) c outer).run
        (Segment.tokens (n + (Segment.atoms segments).length) [.sign op.sign]) =
        some (.before 0 (Level.within op (some (Level.joined op before c))) outer) := by
      simp [Segment.tokens, Reader.run, Level.step_within]
    rw [List.append_assoc, Segment.tokens_append, Segment.tokens_append, Reader.run_append, run,
      Option.bind_some, negated, Reader.run_append, signed, Option.bind_some]
    exact ran outer

theorem ReadsMembers.whole {op : Connective} (reads : ReadsMembers op segments value) :
    ReadsWhole segments value := by
  intro n
  obtain ⟨last, c, same, run⟩ := reads n none
  refine ⟨Level.within op last, c, ?_, ?_⟩
  · intro truth
    rw [Level.closed_within]
    exact same truth
  · intro outer
    rw [← Level.within_none op]
    exact run outer

/-! ### Scripts -/

def Operand (s : Script) (leaves : List Script) (value : (Nat → Bool) → Nat → Bool) : Prop :=
  ∃ segments, Spells s segments ∧ Segment.atoms segments = leaves ∧ ReadsOperand segments value

def Whole (s : Script) (leaves : List Script) (value : (Nat → Bool) → Nat → Bool) : Prop :=
  ∃ segments, Spells s segments ∧ Segment.atoms segments = leaves ∧ ReadsWhole segments value

section Scripts

variable {s : Script} {leaves : List Script}

theorem Operand.whole (operand : Operand s leaves value) : Whole s leaves value := by
  obtain ⟨segments, spells, atoms, reads⟩ := operand
  exact ⟨segments, spells, atoms, reads.whole⟩

theorem Operand.leaf (s : Script) : Operand s [s] fun truth n => truth n :=
  ⟨[.atom s], Spells.atom s, rfl, ReadsOperand.atom s⟩

theorem Whole.parens (whole : Whole s leaves value) (ok : s.fault = none) :
    Operand (.parens s) leaves value := by
  obtain ⟨segments, spells, atoms, reads⟩ := whole
  have opened := (Spells.sign .opening).append rfl spells
  refine ⟨_, opened.append ?_ (Spells.sign .closing), ?_, reads.parens⟩
  · rw [Script.fault_append, ok]
    rfl
  · simpa [Segment.atoms] using atoms

theorem Whole.negation (whole : Whole s leaves value) (ok : s.fault = none) :
    Operand (.text "NOT (" ++ s ++ .text ")") leaves fun truth n => !value truth n := by
  obtain ⟨segments, spells, atoms, reads⟩ := whole
  have opened := Spells.negation.append rfl spells
  refine ⟨_, opened.append ?_ (Spells.sign .closing), ?_, reads.parens.negation⟩
  · rw [Script.fault_append, ok]
    rfl
  · simpa [Segment.atoms] using atoms

end Scripts

end Condition

end SqlTree
