import SqlTree.Proofs.Renderer.Written
import SqlTree.Proofs.Tree.Correspondence
import SqlTree.Proofs.Tree.Values
import SqlTree.Tree.Fields

/-!
One statement in the two positional dialects. Where both can write it they bind the same values, in
the same order unless an UPDATE reads other relations: these stand behind its assignments in the one
dialect and before them in the other.
-/

namespace SqlTree

namespace Script

theorem values_append {a : Script} (ok : a.fault = none) (b : Script) :
    (a ++ b).values = a.values ++ b.values := by
  simp [values, pieces_append_of_ok ok, Piece.slots]

/-- Other values change nothing in the script. -/
def Fixed (s : Script) : Prop := ∀ g, s.mapValues g = s

theorem Fixed.values_eq {s : Script} (fixed : s.Fixed) : s.values = [] := by
  have mapped (g : Value → Value) : s.values.map g = s.values := by
    rw [← values_mapValues, fixed]
  have nulls := mapped fun _ => .null
  have truths := mapped fun _ => .bool true
  cases values : s.values with
  | nil => rfl
  | cons first rest =>
      rw [values, List.map_cons, List.cons.injEq] at nulls truths
      exact nomatch nulls.1.trans truths.1.symm

/-- Where both scripts are whole, the second binds the values of the first, and under a condition
in their order. -/
structure Rebinds (p : Prop) (a b : Script) : Prop where
  perm : a.fault = none → b.fault = none → b.values.Perm a.values
  same : p → a.fault = none → b.fault = none → b.values = a.values

namespace Rebinds

variable {p : Prop} {a b c d : Script}

theorem append (first : Rebinds p a b) (second : Rebinds p c d) :
    Rebinds p (a ++ c) (b ++ d) where
  perm left right := by
    obtain ⟨okA, okC⟩ := append_isOk left
    obtain ⟨okB, okD⟩ := append_isOk right
    rw [values_append okA, values_append okB]
    exact (first.perm okA okB).append (second.perm okC okD)
  same condition left right := by
    obtain ⟨okA, okC⟩ := append_isOk left
    obtain ⟨okB, okD⟩ := append_isOk right
    rw [values_append okA, values_append okB, first.same condition okA okB,
      second.same condition okC okD]

theorem congruence : Congruence (Rebinds p) where
  refl _ := ⟨fun _ _ => .refl _, fun _ _ _ => rfl⟩
  append := append

theorem exchanged (first : Rebinds p a b) (second : Rebinds p c d)
    (unwritten : p → c = .empty ∧ d = .empty) : Rebinds p (a ++ c) (d ++ b) where
  perm left right := by
    obtain ⟨okA, okC⟩ := append_isOk left
    obtain ⟨okD, okB⟩ := append_isOk right
    rw [values_append okA, values_append okD]
    exact List.perm_append_comm.trans ((first.perm okA okB).append (second.perm okC okD))
  same condition left right := by
    obtain ⟨rfl, rfl⟩ := unwritten condition
    rw [append_empty] at left ⊢
    exact first.same condition left right

theorem of_fixed (left : a.Fixed) (right : b.Fixed) : Rebinds p a b where
  perm _ _ := by rw [left.values_eq, right.values_eq]
  same _ _ _ := by rw [left.values_eq, right.values_eq]

theorem behind_fixed (fixed : a.Fixed) (second : Rebinds p b c) : Rebinds p (a ++ b) c := by
  have alone : Rebinds p a .empty := of_fixed fixed fun _ => rfl
  exact alone.append second

end Rebinds

end Script

/-- Under a condition no UPDATE reads other relations. -/
def NodeProperty.aloneIf (p : Prop) : NodeProperty where
  update u := p → u.source = none ∧ u.joins = []

section Parts

variable {p : Prop}

theorem nulls_fixed (d : Dialect) (f : Field) : (f.nullsScript d).Fixed := by
  intro g
  unfold Field.nullsScript
  split <;> simp

theorem columnNames_fixed (d : Dialect) (node : Node) (first : Bool) (list : List Field) :
    (Field.columnNames d node first list).Fixed := by
  intro g
  induction list generalizing first with
  | nil => rfl
  | cons f rest ih =>
      rw [Field.columnNames, Script.mapValues_append, ih]
      cases f.expr.columnName? <;> simp

theorem conflict_rebinds (table : Table) (target : List Field) (action : ConflictAction)
    (updates : List.Forall₂ (Script.Rebinds p)
      (ConflictAction.scripts .sqlite [table.qualifier] action)
      (ConflictAction.scripts .mysql [table.qualifier] action)) :
    Script.Rebinds p (Conflict.script .sqlite table ⟨target, action⟩)
      (Conflict.script .mysql table ⟨target, action⟩) := by
  have names : (Field.columnNames .sqlite (.insert table.name) true target).Fixed :=
    columnNames_fixed _ _ _ _
  have before : (Script.text " ON CONFLICT" ++ .onlyIf (!target.isEmpty)
      (.text " " ++ .parens (Field.columnNames .sqlite (.insert table.name) true target))).Fixed :=
    fun g => by simp [names g]
  cases action with
  | nothing =>
      refine .of_fixed (fun g => ?_) fun _ => rfl
      exact (Script.mapValues_append g _ _).trans (congrArg (· ++ _) (before g))
  | update list =>
      have required : (Script.require (!target.isEmpty)
          (.malformed (.insert table.name) .noConflictTarget)).Fixed := fun g => by simp
      have set := Script.Rebinds.congruence.separated ", " updates
      have kept {xs ys : List Script} {k l : String} : Script.Rebinds p
          (.require (!xs.isEmpty) (.malformed (.insert table.name) .emptyUpsert) ++ .text k)
          (.require (!ys.isEmpty) (.malformed (.insert table.name) .emptyUpsert) ++ .text l) :=
        .of_fixed (fun g => by simp) fun g => by simp
      exact .behind_fixed before (.behind_fixed required (kept.append set))

/-- An UPDATE reads other relations behind its assignments or before them. -/
theorem changes_rebind (u : Update) (alone : p → u.source = none ∧ u.joins = [])
    (parts : u.Parts (.corresponds .sqlite .mysql (Script.Rebinds p) fun _ _ => True)) :
    Script.Rebinds p (u.changes .sqlite) (u.changes .mysql) := by
  have kept : Script.Congruence (Script.Rebinds p) := Script.Rebinds.congruence
  have set (target target' value value' : List String) : Script.Rebinds p
      (.text " SET " ++ .separated ", " (Assignment.scripts .sqlite target value u.assignments))
      (.text " SET " ++ .separated ", " (Assignment.scripts .mysql target' value' u.assignments)) :=
    kept.behind _ (kept.separated ", "
      (NodeProperty.corresponds.assignments trivial trivial u.assignments parts.assignments))
  have source : Script.Rebinds p (Source.clause .sqlite " FROM " u.source)
      (Source.clause .mysql ", " u.source) := by
    cases present : u.source with
    | none => exact kept.refl _
    | some source =>
        have keywords : Script.Rebinds p (.text " FROM ") (.text ", ") :=
          .of_fixed (fun _ => rfl) fun _ => rfl
        exact keywords.append (parts.source source present)
  have joins := NodeProperty.corresponds.joins kept u.joins parts.joins
  have checked : Script.Rebinds p (.require (u.source.isSome || u.joins.isEmpty)
      (.malformed (.update u.table.name) .joinsWithoutSource)) .empty :=
    .of_fixed (fun g => by simp) fun _ => rfl
  have relations := (source.append checked).append joins
  rw [Script.append_empty] at relations
  have whole := (set [u.table.qualifier] u.sharedBare u.sharedBare u.sharedBare).exchanged relations
    (by
      intro condition
      obtain ⟨none, unjoined⟩ := alone condition
      rw [none, unjoined]
      exact ⟨rfl, rfl⟩)
  rw [Update.changes, Update.changes, if_neg (by decide), if_pos (by decide)]
  simpa only [Script.append_assoc] using whole

end Parts

theorem mysql_rebinds (p : Prop) :
    Correspondence .sqlite .mysql (Script.Rebinds p) (fun _ _ => True) (.aloneIf p) where
  kept := Script.Rebinds.congruence
  nothingBare := trivial
  ownBare _ := trivial
  column _ _ _ := .of_fixed (by simp [Script.Fixed]) (by simp [Script.Fixed])
  proposed _ := .of_fixed (by simp [Script.Fixed]) (by simp [Script.Fixed])
  ident _ := .of_fixed (by simp [Script.Fixed]) (by simp [Script.Fixed])
  nulls f := .of_fixed (nulls_fixed _ f) (nulls_fixed _ f)
  returning _ _ := .of_fixed (by simp [Script.Fixed, Script.checkReturning])
    (by simp [Script.Fixed, Script.checkReturning])
  materialization _ _ := .of_fixed (by simp [Script.Fixed]) (by simp [Script.Fixed])
  bounds _ _ := .of_fixed (by simp [Script.Fixed]) (by simp [Script.Fixed])
  intoTable _ _ := .of_fixed (by simp [Script.Fixed, Insert.intoTable])
    (by simp [Script.Fixed, Insert.intoTable])
  noRows := .of_fixed (by simp [Script.Fixed]) (by simp [Script.Fixed])
  conflict table target action updates := conflict_rebinds table target action updates
  update u alone parts := changes_rebind u alone parts

namespace Query

def UpdatesAlone (q : Query) : Prop := q.Each (.aloneIf True)

theorem args_eq_values {d : Dialect} (positional : d.numbered = false) {q : Query} {b : Built}
    (built : q.build d = .ok b) :
    (q.script d).fault = none ∧ b.args = (q.script d).values := by
  obtain ⟨ok, rfl⟩ := build_eq_ok.mp built
  refine ⟨ok, ?_⟩
  exact (Renderer.new d).positional_args positional (q.script d).pieces

/-- Where both positional dialects can write a statement, the arguments of the one are a permutation
of those of the other, and the same list if no UPDATE in it reads other relations. -/
theorem positional_args_permuted (q : Query) (s m : Built) (sqlite : q.build .sqlite = .ok s)
    (mysql : q.build .mysql = .ok m) :
    m.args.Perm s.args ∧ (q.UpdatesAlone → m.args = s.args) := by
  obtain ⟨left, sqliteArgs⟩ := args_eq_values rfl sqlite
  obtain ⟨right, mysqlArgs⟩ := args_eq_values rfl mysql
  rw [sqliteArgs, mysqlArgs]
  have always : NodeProperty.Always (.aloneIf False) :=
    { update := fun _ impossible => impossible.elim }
  constructor
  · exact ((mysql_rebinds False).scripts q (always.each_query q)).perm left right
  · intro alone
    exact ((mysql_rebinds True).scripts q alone).same trivial left right

/-- Stock that deliveries of one kind add to: the deliveries are read from a subquery. -/
def restock : Query :=
  let deliveries : Query := .select
    { ctes := [], distinct := false, fields := [.bare "id", .bare "count"]
      source := some (.table (.named "delivery")), joins := []
      conditions := [.compare (.bare "kind") .eq (.value (.text "fresh"))]
      grouping := [], having := [], ordering := [], limit := none, offset := none }
  .update
    { ctes := [], table := .named "stock"
      assignments := [⟨.column (.named "stock") "count" .number,
        .template "? + ?" [.qualified "d" "count", .value (.int 1)]⟩]
      source := some (.subquery deliveries "d"), joins := []
      conditions := [.compare (.qualified "d" "id") .ne (.shared "none" (.int 0))]
      returning := [] }

def tally : Query := .insert
  { ctes := [], table := .named "stock", columns := [.bare "id", .bare "count"]
    rows := [[.value (.int 7), .value (.int 1)]], source := none
    conflict := some ⟨[.bare "id"], .update [⟨.bare "count",
      .template "? + ?" [.proposed (.bare "count"), .value (.int 2)]⟩]⟩
    returning := [], fault := none }

theorem tally_alone : tally.UpdatesAlone := by
  simp [tally, UpdatesAlone, Query.Each, Insert.Each, Cte.EachOf, Field.EachOf, Field.EachRow,
    Field.Each, Expr.Each, Select.EachOption, Conflict.EachOption, ConflictAction.Each,
    Assignment.EachOf, Assignment.Each, Field.bare, Field.qualified, Field.ofExpr, Field.value,
    Field.template, Field.proposed, NodeProperty.aloneIf]

theorem restock_args_permuted :
    (∃ s m, restock.build .sqlite = .ok s ∧ restock.build .mysql = .ok m ∧
      s.args = [.int 1, .text "fresh", .int 0] ∧ m.args = [.text "fresh", .int 1, .int 0] ∧
      m.args.Perm s.args) ∧
    ∃ s m, tally.build .sqlite = .ok s ∧ tally.build .mysql = .ok m ∧
      s.args = [.int 7, .int 1, .int 2] ∧ m.args = s.args := by
  constructor
  · obtain ⟨s, m, sqlite, mysql, args, others⟩ : ∃ s m, restock.build .sqlite = .ok s ∧
        restock.build .mysql = .ok m ∧ s.args = [.int 1, .text "fresh", .int 0] ∧
        m.args = [.text "fresh", .int 1, .int 0] := by
      rw [build_eq_script, build_eq_script]
      exact ⟨_, _, rfl, rfl, rfl, rfl⟩
    exact ⟨s, m, sqlite, mysql, args, others, (positional_args_permuted restock s m sqlite mysql).1⟩
  · obtain ⟨s, m, sqlite, mysql, args⟩ : ∃ s m, tally.build .sqlite = .ok s ∧
        tally.build .mysql = .ok m ∧ s.args = [.int 7, .int 1, .int 2] := by
      rw [build_eq_script, build_eq_script]
      exact ⟨_, _, rfl, rfl, rfl⟩
    exact ⟨s, m, sqlite, mysql, args,
      (positional_args_permuted tally s m sqlite mysql).2 tally_alone⟩

end Query

end SqlTree
