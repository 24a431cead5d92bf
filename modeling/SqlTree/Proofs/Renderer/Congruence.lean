import SqlTree.Tree.Clauses
import Mathlib.Data.List.Forall2

namespace SqlTree.Script

structure Congruence (R : Script → Script → Prop) : Prop where
  refl : ∀ s, R s s
  append : ∀ {a b c d : Script}, R a b → R c d → R (a ++ c) (b ++ d)

namespace Congruence

variable {R : Script → Script → Prop} (kept : Congruence R) {a b : Script} {xs ys : List Script}

include kept

theorem before (first : R a b) (s : Script) : R (a ++ s) (b ++ s) :=
  kept.append first (kept.refl s)

theorem behind (s : Script) (second : R a b) : R (s ++ a) (s ++ b) :=
  kept.append (kept.refl s) second

theorem onlyIf (condition : Bool) (inner : R a b) :
    R (.onlyIf condition a) (.onlyIf condition b) := by
  cases condition with
  | false => exact kept.refl _
  | true => exact inner

theorem parens (inner : R a b) : R (.parens a) (.parens b) :=
  kept.before (kept.behind _ inner) _

theorem separated (separator : String) (all : List.Forall₂ R xs ys) :
    R (.separated separator xs) (.separated separator ys) := by
  induction all with
  | nil => exact kept.refl _
  | cons first rest ih =>
      cases rest with
      | nil => exact first
      | cons second others => exact kept.append (kept.before first _) ih

theorem group (op : Connective) (outermost : Bool) (all : List.Forall₂ R xs ys) :
    R (.group op outermost xs) (.group op outermost ys) := by
  have list := kept.separated op.separator all
  rcases all with _ | ⟨first, _ | ⟨second, others⟩⟩
  · exact kept.refl _
  · exact first
  · cases outermost with
    | false => exact kept.parens list
    | true => exact list

theorem conditions (keyword : String) (all : List.Forall₂ R xs ys) :
    R (.conditions keyword xs) (.conditions keyword ys) := by
  have members := kept.group .and true all
  cases all with
  | nil => exact kept.refl _
  | cons first others => exact kept.behind _ members

theorem listClause (keyword : String) (all : List.Forall₂ R xs ys) :
    R (.listClause keyword xs) (.listClause keyword ys) := by
  have items := kept.separated ", " all
  cases all with
  | nil => exact kept.refl _
  | cons first others => exact kept.behind _ items

theorem joinsClause (all : List.Forall₂ R xs ys) : R (.joinsClause xs) (.joinsClause ys) := by
  have items := kept.separated " " all
  cases all with
  | nil => exact kept.refl _
  | cons first others => exact kept.behind _ items

theorem withClause (ctes : List Cte) (all : List.Forall₂ R xs ys) :
    R (.withClause ctes xs) (.withClause ctes ys) :=
  kept.onlyIf _ (kept.before (kept.behind _ (kept.separated ", " all)) _)

theorem fill (texts : List (List Char)) (all : List.Forall₂ R xs ys) :
    R (.fill texts xs) (.fill texts ys) := by
  induction texts generalizing xs ys with
  | nil => cases all <;> exact kept.refl _
  | cons first rest ih =>
      cases rest with
      | nil => cases all <;> exact kept.refl _
      | cons next rest =>
          cases all with
          | nil => exact kept.behind _ (ih .nil)
          | cons operand others => exact kept.append (kept.behind _ operand) (ih others)

theorem template (format : String) (all : List.Forall₂ R xs ys) :
    R (.template format xs) (.template format ys) := by
  simp only [Script.template, all.length_eq]
  exact kept.before (kept.fill _ all) _

omit kept in
theorem map {α : Type} {f g : α → Script} (list : List α) (each : ∀ x ∈ list, R (f x) (g x)) :
    List.Forall₂ R (list.map f) (list.map g) := by
  rw [List.forall₂_map_left_iff, List.forall₂_map_right_iff, List.forall₂_same]
  exact each

end Congruence

end SqlTree.Script
