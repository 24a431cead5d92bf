import SqlTree.Tree.Emptiness

namespace SqlTree

def Cte.ownLists (ctes : List Cte) : List (List Cte) := if ctes.isEmpty then [] else [ctes]

mutual

def Expr.withLists : Expr → List (List Cte)
  | .template _ operands => Field.withListsOf operands
  | .scalar query => query.withLists
  | .column .. | .proposed _ | .value _ | .shared .. => []

def Field.withLists : Field → List (List Cte)
  | ⟨expr, _, _, _⟩ => expr.withLists

def Field.withListsOf : List Field → List (List Cte)
  | [] => []
  | f :: rest => f.withLists ++ Field.withListsOf rest

def Field.withListsOfRows : List (List Field) → List (List Cte)
  | [] => []
  | row :: rest => Field.withListsOf row ++ Field.withListsOfRows rest

def Predicate.withLists : Predicate → List (List Cte)
  | .compare left _ right => left.withLists ++ right.withLists
  | .isNull field _ => field.withLists
  | .inList field values _ => field.withLists ++ Field.withListsOf values
  | .inQuery field query _ => field.withLists ++ query.withLists
  | .between field low high _ => field.withLists ++ low.withLists ++ high.withLists
  | .existsRow query _ => query.withLists
  | .not inner => inner.withLists
  | .group _ members _ => Predicate.withListsOf members
  | .holds field => field.withLists

def Predicate.withListsOf : List Predicate → List (List Cte)
  | [] => []
  | p :: rest => p.withLists ++ Predicate.withListsOf rest

def Source.withLists : Source → List (List Cte)
  | .table _ | .cte .. => []
  | .subquery query _ => query.withLists

def Source.withListsOption : Option Source → List (List Cte)
  | none => []
  | some source => source.withLists

def Query.withListsOption : Option Query → List (List Cte)
  | none => []
  | some query => query.withLists

def RecursiveStep.withListsOption : Option RecursiveStep → List (List Cte)
  | none => []
  | some ⟨_, query⟩ => query.withLists

def CteBody.withLists : CteBody → List (List Cte)
  | .plain query => Query.withListsOption query
  | .recursive initial step =>
      Query.withListsOption initial ++ RecursiveStep.withListsOption step

def Cte.withLists : Cte → List (List Cte)
  | ⟨_, _, _, body, _⟩ => body.withLists

def Cte.withListsOf : List Cte → List (List Cte)
  | [] => []
  | c :: rest => c.withLists ++ Cte.withListsOf rest

def Join.withLists : Join → List (List Cte)
  | ⟨_, source, conditions⟩ => source.withLists ++ Predicate.withListsOf conditions

def Join.withListsOf : List Join → List (List Cte)
  | [] => []
  | j :: rest => j.withLists ++ Join.withListsOf rest

def Assignment.withLists : Assignment → List (List Cte)
  | ⟨target, value⟩ => target.withLists ++ value.withLists

def Assignment.withListsOf : List Assignment → List (List Cte)
  | [] => []
  | a :: rest => a.withLists ++ Assignment.withListsOf rest

def ConflictAction.withLists : ConflictAction → List (List Cte)
  | .nothing => []
  | .update assignments => Assignment.withListsOf assignments

def Conflict.withListsOption : Option Conflict → List (List Cte)
  | none => []
  | some ⟨_, action⟩ => action.withLists

def Select.withLists : Select → List (List Cte)
  | ⟨ctes, _, fields, source, joins, conditions, grouping, having, ordering, _, _⟩ =>
      Cte.ownLists ctes ++ Cte.withListsOf ctes ++ Field.withListsOf fields ++
        Source.withListsOption source ++ Join.withListsOf joins ++
        Predicate.withListsOf conditions ++ Field.withListsOf grouping ++
        Predicate.withListsOf having ++ Field.withListsOf ordering

def Select.withListsOption : Option Select → List (List Cte)
  | none => []
  | some s => s.withLists

def Insert.withLists : Insert → List (List Cte)
  | ⟨ctes, _, _, rows, source, conflict, returning, _⟩ =>
      Cte.ownLists ctes ++ Cte.withListsOf ctes ++
        (if source.isSome then Select.withListsOption source else Field.withListsOfRows rows) ++
        Conflict.withListsOption conflict ++ Field.withListsOf returning

def Update.withLists : Update → List (List Cte)
  | ⟨ctes, _, assignments, source, joins, conditions, returning⟩ =>
      Cte.ownLists ctes ++ Cte.withListsOf ctes ++ Assignment.withListsOf assignments ++
        Source.withListsOption source ++ Join.withListsOf joins ++
        Predicate.withListsOf conditions ++ Field.withListsOf returning

def Delete.withLists : Delete → List (List Cte)
  | ⟨ctes, _, conditions, returning, _⟩ =>
      Cte.ownLists ctes ++ Cte.withListsOf ctes ++ Predicate.withListsOf conditions ++
        Field.withListsOf returning

/-- The non-empty WITH lists that a statement writes, at any depth. -/
def Query.withLists : Query → List (List Cte)
  | .select s => s.withLists
  | .insert i => i.withLists
  | .update u => u.withLists
  | .delete d => d.withLists

end

section Lists

theorem Field.withListsOf_eq (fields : List Field) :
    Field.withListsOf fields = fields.flatMap Field.withLists := by
  induction fields with
  | nil => rfl
  | cons f rest ih => rw [Field.withListsOf, ih, List.flatMap_cons]

theorem Field.withListsOfRows_eq (rows : List (List Field)) :
    Field.withListsOfRows rows = rows.flatMap Field.withListsOf := by
  induction rows with
  | nil => rfl
  | cons row rest ih => rw [Field.withListsOfRows, ih, List.flatMap_cons]

theorem Predicate.withListsOf_eq (members : List Predicate) :
    Predicate.withListsOf members = members.flatMap Predicate.withLists := by
  induction members with
  | nil => rfl
  | cons p rest ih => rw [Predicate.withListsOf, ih, List.flatMap_cons]

theorem Cte.withListsOf_eq (ctes : List Cte) :
    Cte.withListsOf ctes = ctes.flatMap Cte.withLists := by
  induction ctes with
  | nil => rfl
  | cons c rest ih => rw [Cte.withListsOf, ih, List.flatMap_cons]

theorem Join.withListsOf_eq (joins : List Join) :
    Join.withListsOf joins = joins.flatMap Join.withLists := by
  induction joins with
  | nil => rfl
  | cons j rest ih => rw [Join.withListsOf, ih, List.flatMap_cons]

theorem Assignment.withListsOf_eq (list : List Assignment) :
    Assignment.withListsOf list = list.flatMap Assignment.withLists := by
  induction list with
  | nil => rfl
  | cons a rest ih => rw [Assignment.withListsOf, ih, List.flatMap_cons]

end Lists

section Empty

mutual

theorem Predicate.withLists_of_isEmpty : ∀ p : Predicate, p.isEmpty = true → p.withLists = []
  | .not inner, empty => by
      rw [Predicate.withLists]
      exact Predicate.withLists_of_isEmpty inner empty
  | .group _ members _, empty => by
      rw [Predicate.withLists]
      exact Predicate.withListsOf_of_allEmpty members empty
  | .compare .., empty | .isNull .., empty | .inList .., empty | .inQuery .., empty
  | .between .., empty | .existsRow .., empty | .holds _, empty => Bool.noConfusion empty

theorem Predicate.withListsOf_of_allEmpty : ∀ members : List Predicate,
    Predicate.allEmpty members = true → Predicate.withListsOf members = []
  | [], _ => rfl
  | p :: rest, empty => by
      obtain ⟨first, others⟩ := Bool.and_eq_true_iff.mp empty
      rw [Predicate.withListsOf, Predicate.withLists_of_isEmpty p first,
        Predicate.withListsOf_of_allEmpty rest others]
      rfl

end

theorem Predicate.withListsOf_kept (members : List Predicate) :
    Predicate.withListsOf members = (members.filter (!·.isEmpty)).flatMap Predicate.withLists := by
  induction members with
  | nil => rfl
  | cons p rest ih =>
      rw [Predicate.withListsOf, ih]
      cases empty : p.isEmpty with
      | true => simp [empty, Predicate.withLists_of_isEmpty p empty]
      | false => simp [empty]

end Empty

end SqlTree
