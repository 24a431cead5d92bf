import SqlTree.Tree.Basic

namespace SqlTree.Predicate

mutual

def isEmpty : Predicate → Bool
  | group _ members _ => allEmpty members
  | not inner => inner.isEmpty
  | _ => false

def allEmpty : List Predicate → Bool
  | [] => true
  | p :: rest => p.isEmpty && allEmpty rest

end

/-- The place of the members of a group in an outermost place or elsewhere: a lone member that
writes text takes the place of its group, of several each goes by its own mark. -/
def memberPlace (outermost : Bool) (members : List Predicate) : Option Bool :=
  if members.countP (!·.isEmpty) = 1 then some outermost else none

theorem allEmpty_eq_all (members : List Predicate) : allEmpty members = members.all isEmpty := by
  induction members with
  | nil => rfl
  | cons p rest ih => simp [allEmpty, ih]

end SqlTree.Predicate
