import SqlTree.Proofs.Tree.Correspondence

namespace SqlTree

structure Script.Agree (p : Prop) (a b : Script) : Prop where
  fault : a.fault = b.fault
  same : p → a = b

namespace Script.Agree

variable {p : Prop} {a b c d : Script}

theorem refl (s : Script) : Agree p s s := ⟨rfl, fun _ => rfl⟩

theorem of_eq (same : a = b) : Agree p a b := ⟨congrArg Script.fault same, fun _ => same⟩

theorem append (first : Agree p a b) (second : Agree p c d) : Agree p (a ++ c) (b ++ d) := by
  refine ⟨?_, fun condition => ?_⟩
  · rw [fault_append, fault_append, first.fault, second.fault]
  · rw [first.same condition, second.same condition]

theorem congruence : Congruence (Agree p) := ⟨refl, append⟩

end Script.Agree

/-- Under a condition there are no hints for materialization, nor an OFFSET without a LIMIT. -/
def NodeProperty.portableIf (p : Prop) : NodeProperty where
  cte c := p → c.materialized = none
  select s := p → s.offset = none ∨ s.limit ≠ none

def Query.Portable (q : Query) : Prop := q.Each (.portableIf True)

namespace Agreement

variable {p : Prop}

theorem checkReturning (node : Node) (returning : List Field) :
    Script.checkReturning .postgres node returning =
      Script.checkReturning .sqlite node returning := by
  simp [Script.checkReturning, Dialect.returning, Script.require]

theorem columnNames (node : Node) (first : Bool) (list : List Field) :
    Field.columnNames .postgres node first list = Field.columnNames .sqlite node first list := by
  induction list generalizing first with
  | nil => rfl
  | cons f rest ih =>
      rw [Field.columnNames, Field.columnNames, ih]
      rfl

theorem materialization (hint : Option Bool) (none : p → hint = none) :
    Script.Agree p (.materialization .postgres hint) (.materialization .sqlite hint) := by
  refine ⟨?_, fun condition => ?_⟩
  · rcases hint with _ | _ | _ <;> rfl
  · rw [none condition]
    rfl

theorem bounds (limit offset : Option Int64) (bounded : p → offset = none ∨ limit ≠ none) :
    Script.Agree p (.bounds .postgres limit offset) (.bounds .sqlite limit offset) := by
  rcases limit with _ | n
  · rcases offset with _ | m
    · exact .refl _
    · refine ⟨rfl, fun condition => ?_⟩
      have := bounded condition
      simp at this
  · cases offset <;> exact .refl _

theorem conflict (table : Table) (target : List Field) (action : ConflictAction)
    (updates : List.Forall₂ (Script.Agree p)
      (ConflictAction.scripts .postgres [table.qualifier] action)
      (ConflictAction.scripts .sqlite [table.qualifier] action)) :
    Script.Agree p (Conflict.script .postgres table ⟨target, action⟩)
      (Conflict.script .sqlite table ⟨target, action⟩) := by
  have kept : Script.Congruence (Script.Agree p) := Script.Agree.congruence
  have none {xs ys : List Script} (all : List.Forall₂ (Script.Agree p) xs ys) :
      xs.isEmpty = ys.isEmpty := by
    cases all <;> rfl
  cases action with
  | nothing =>
      simp only [Conflict.script, columnNames]
      exact .refl _
  | update list =>
      simp only [Conflict.script, columnNames, none updates]
      exact kept.behind _ (kept.behind _ (kept.behind _ (kept.separated ", " updates)))

theorem changes (u : Update)
    (parts : u.Parts (.corresponds .postgres .sqlite (Script.Agree p) Eq)) :
    Script.Agree p (u.changes .postgres) (u.changes .sqlite) := by
  have kept : Script.Congruence (Script.Agree p) := Script.Agree.congruence
  have source : Script.Agree p (Source.clause .postgres " FROM " u.source)
      (Source.clause .sqlite " FROM " u.source) := by
    cases present : u.source with
    | none => exact kept.refl _
    | some source => exact kept.behind _ (parts.source source present)
  have set := NodeProperty.corresponds.assignments (rfl : [u.table.qualifier] = _)
    (rfl : u.sharedBare = _) u.assignments parts.assignments
  have joins := NodeProperty.corresponds.joins kept u.joins parts.joins
  rw [Update.changes, Update.changes, if_neg (by decide), if_neg (by decide)]
  exact kept.append (kept.before (kept.append (kept.behind _ (kept.separated ", " set)) source) _)
    joins

end Agreement

theorem sqlite_agrees (p : Prop) :
    Correspondence .postgres .sqlite (Script.Agree p) Eq (.portableIf p) where
  kept := Script.Agree.congruence
  nothingBare := rfl
  ownBare _ := rfl
  column qualifier name same := by
    subst same
    exact .refl _
  proposed _ := .refl _
  ident _ := .refl _
  nulls _ := .refl _
  returning node list := .of_eq (Agreement.checkReturning node list)
  materialization c plain := Agreement.materialization c.materialized plain
  bounds s bounded := Agreement.bounds s.limit s.offset bounded
  intoTable _ _ := .refl _
  noRows := .refl _
  conflict table target action updates := Agreement.conflict table target action updates
  update u _ parts := Agreement.changes u parts

end SqlTree
