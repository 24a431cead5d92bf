import SqlTree.Proofs.Renderer.Congruence
import SqlTree.Tree.Script

namespace SqlTree

namespace Script

/-- The same pieces, and a fault behind both or behind neither. Faults may name a column in their
own words. -/
structure Matches (a b : Script) : Prop where
  pieces : a.pieces = b.pieces
  isOk : a.isOk = b.isOk

namespace Matches

variable {a b : Script}

theorem congruence : Congruence Matches where
  refl _ := ⟨rfl, rfl⟩
  append {a b c d} first second := by
    constructor
    · rw [pieces_append, pieces_append, first.isOk, first.pieces, second.pieces]
    · have own := first.isOk
      have other := second.isOk
      unfold Script.isOk at own other ⊢
      rw [fault_append, fault_append, Option.isNone_or, Option.isNone_or, own, other]

theorem refl (s : Script) : Matches s s := congruence.refl s

theorem write (same : Matches a b) (r : Renderer) : r.write a = r.write b := by
  rw [Renderer.write, Renderer.write, same.pieces]

end Matches

end Script

variable (bare : List String)

mutual

/-- The expression with every column outside subqueries, if its qualifier is one of `bare`, replaced
by the unqualified column of its name. -/
def Expr.unqualified : Expr → Expr
  | .column table tableAlias name type =>
      if (Expr.column table tableAlias name type).qualifier ∈ bare then .column "" "" name type
      else .column table tableAlias name type
  | .proposed name => .proposed name
  | .value v => .value v
  | .shared name v => .shared name v
  | .template format operands => .template format (Field.unqualifiedEach operands)
  | .scalar query => .scalar query

def Field.unqualified : Field → Field
  | ⟨expr, asName, direction, nulls⟩ => ⟨expr.unqualified, asName, direction, nulls⟩

def Field.unqualifiedEach : List Field → List Field
  | [] => []
  | f :: rest => f.unqualified :: Field.unqualifiedEach rest

end

mutual

def Predicate.unqualified : Predicate → Predicate
  | .compare left op right => .compare (left.unqualified bare) op (right.unqualified bare)
  | .isNull field negated => .isNull (field.unqualified bare) negated
  | .inList field values negated =>
      .inList (field.unqualified bare) (Field.unqualifiedEach bare values) negated
  | .inQuery field query negated => .inQuery (field.unqualified bare) query negated
  | .between field low high negated =>
      .between (field.unqualified bare) (low.unqualified bare) (high.unqualified bare) negated
  | .existsRow query negated => .existsRow query negated
  | .not inner => .not inner.unqualified
  | .group op members toplevel => .group op (Predicate.unqualifiedEach members) toplevel
  | .holds field => .holds (field.unqualified bare)

def Predicate.unqualifiedEach : List Predicate → List Predicate
  | [] => []
  | p :: rest => p.unqualified :: Predicate.unqualifiedEach rest

end

variable (d : Dialect)

section Fields

theorem Script.column_unqualified (qualifier name : String) (among : qualifier ∈ bare) :
    Script.column d bare qualifier name = .column d [] "" name := by
  simp [Script.column, Script.onlyIf, among]

theorem Script.column_kept (qualifier name : String) (other : qualifier ∉ bare) :
    Script.column d bare qualifier name = .column d [] qualifier name := by
  simp [Script.column, other]

mutual

theorem Expr.matches_unqualified : ∀ e : Expr,
    Script.Matches (e.script d bare) ((e.unqualified bare).script d [])
  | .column table tableAlias name type => by
      rw [Expr.unqualified, Expr.script]
      by_cases among : (Expr.column table tableAlias name type).qualifier ∈ bare
      · rw [if_pos among, Script.column_unqualified bare d _ name among]
        exact .refl _
      · rw [if_neg among, Script.column_kept bare d _ name among]
        exact .refl _
  | .proposed _ => .refl _
  | .value _ => .refl _
  | .shared _ _ => .refl _
  | .template format operands => by
      rw [Expr.unqualified, Expr.script, Expr.script]
      exact Script.Matches.congruence.template format (Field.matches_unqualifiedEach operands)
  | .scalar _ => .refl _

theorem Field.matches_unqualified : ∀ f : Field,
    Script.Matches (f.script d bare) ((f.unqualified bare).script d [])
  | ⟨expr, _, _, _⟩ => by
      rw [Field.unqualified, Field.script, Field.script]
      exact Expr.matches_unqualified expr

theorem Field.matches_unqualifiedEach : ∀ fields : List Field,
    List.Forall₂ Script.Matches (Field.scripts d bare fields)
      (Field.scripts d [] (Field.unqualifiedEach bare fields))
  | [] => .nil
  | f :: rest => .cons (Field.matches_unqualified f) (Field.matches_unqualifiedEach rest)

end

end Fields

section Predicates

mutual

@[simp] theorem Predicate.isEmpty_unqualified : ∀ p : Predicate,
    (p.unqualified bare).isEmpty = p.isEmpty
  | .compare .. | .isNull .. | .inList .. | .inQuery .. | .between .. | .existsRow ..
  | .holds _ => rfl
  | .not inner => Predicate.isEmpty_unqualified inner
  | .group _ members _ => Predicate.allEmpty_unqualified members

theorem Predicate.allEmpty_unqualified : ∀ members : List Predicate,
    Predicate.allEmpty (Predicate.unqualifiedEach bare members) = Predicate.allEmpty members
  | [] => rfl
  | p :: rest => by
      rw [Predicate.unqualifiedEach, Predicate.allEmpty, Predicate.isEmpty_unqualified p,
        Predicate.allEmpty_unqualified rest, Predicate.allEmpty]

end

theorem Predicate.memberPlace_unqualified (outermost : Bool) (members : List Predicate) :
    Predicate.memberPlace outermost (Predicate.unqualifiedEach bare members) =
      Predicate.memberPlace outermost members := by
  have count : (Predicate.unqualifiedEach bare members).countP (!·.isEmpty) =
      members.countP (!·.isEmpty) := by
    induction members with
    | nil => rfl
    | cons p rest ih => rw [Predicate.unqualifiedEach, List.countP_cons, List.countP_cons, ih,
        Predicate.isEmpty_unqualified]
  rw [Predicate.memberPlace, Predicate.memberPlace, count]

mutual

theorem Predicate.matches_unqualified : ∀ (place : Option Bool) (p : Predicate),
    Script.Matches (p.script d bare place) ((p.unqualified bare).script d [] place)
  | place, .compare left op right => by
      have kept := Script.Matches.congruence
      rw [Predicate.unqualified, Predicate.script, Predicate.script]
      exact kept.append (kept.before (Field.matches_unqualified bare d left) _)
        (Field.matches_unqualified bare d right)
  | place, .isNull field negated => by
      rw [Predicate.unqualified, Predicate.script, Predicate.script]
      exact Script.Matches.congruence.before (Field.matches_unqualified bare d field) _
  | place, .inList field values negated => by
      have kept := Script.Matches.congruence
      rw [Predicate.unqualified, Predicate.script, Predicate.script]
      cases values with
      | nil => exact ⟨rfl, rfl⟩
      | cons v rest =>
          exact kept.before (kept.append (kept.before (Field.matches_unqualified bare d field) _)
            (kept.separated ", " (Field.matches_unqualifiedEach bare d (v :: rest)))) _
  | place, .inQuery field query negated => by
      have kept := Script.Matches.congruence
      rw [Predicate.unqualified, Predicate.script, Predicate.script]
      exact kept.before (kept.before (kept.before (Field.matches_unqualified bare d field) _) _) _
  | place, .between field low high negated => by
      have kept := Script.Matches.congruence
      rw [Predicate.unqualified, Predicate.script, Predicate.script]
      exact kept.append (kept.before (kept.append
        (kept.before (Field.matches_unqualified bare d field) _)
        (Field.matches_unqualified bare d low)) _) (Field.matches_unqualified bare d high)
  | place, .existsRow query negated => .refl _
  | place, .not inner => by
      have kept := Script.Matches.congruence
      rw [Predicate.unqualified, Predicate.script, Predicate.script,
        Predicate.isEmpty_unqualified]
      exact kept.onlyIf _ (kept.before (kept.behind _ (Predicate.matches_unqualified none inner)) _)
  | place, .group op members toplevel => by
      rw [Predicate.unqualified, Predicate.script, Predicate.script,
        Predicate.memberPlace_unqualified]
      exact Script.Matches.congruence.group op _ (Predicate.matches_unqualifiedEach _ members)
  | place, .holds field => by
      rw [Predicate.unqualified, Predicate.script, Predicate.script]
      exact Field.matches_unqualified bare d field

theorem Predicate.matches_unqualifiedEach : ∀ (place : Option Bool) (members : List Predicate),
    List.Forall₂ Script.Matches (Predicate.scripts d bare place members)
      (Predicate.scripts d [] place (Predicate.unqualifiedEach bare members))
  | _, [] => .nil
  | place, p :: rest => by
      rw [Predicate.unqualifiedEach, Predicate.scripts, Predicate.scripts,
        Predicate.isEmpty_unqualified]
      have others := Predicate.matches_unqualifiedEach place rest
      split
      · exact others
      · exact .cons (Predicate.matches_unqualified place p) others

end

end Predicates

/-- A field or predicate that is written without a set of qualifiers, in any place and behind
anything, is written just as the one whose columns outside subqueries have lost these qualifiers: it
is refused if and only if that one is, and adds the same text and arguments. -/
theorem written_unqualified (f : Field) (p : Predicate) (place : Option Bool) (r : Renderer) :
    ((f.script d bare).isOk = ((f.unqualified bare).script d []).isOk ∧
      r.write (f.script d bare) = r.write ((f.unqualified bare).script d [])) ∧
    (p.script d bare place).isOk = ((p.unqualified bare).script d [] place).isOk ∧
      r.write (p.script d bare place) = r.write ((p.unqualified bare).script d [] place) := by
  have field := Field.matches_unqualified bare d f
  have predicate := Predicate.matches_unqualified bare d place p
  exact ⟨⟨field.isOk, field.write r⟩, predicate.isOk, predicate.write r⟩

end SqlTree
