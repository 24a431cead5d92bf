import SqlTree.Tree.Basic

/-!
Equality of trees, part by part. Values compare as values, so a tree that holds a NaN differs from
itself.
-/

namespace SqlTree

mutual

def Expr.equal : Expr → Expr → Bool
  | .column t a n k, .column t' a' n' k' => t == t' && a == a' && n == n' && k == k'
  | .proposed n, .proposed n' => n == n'
  | .value v, .value v' => v.equal v'
  | .shared n v, .shared n' v' => n == n' && v.equal v'
  | .template f os, .template f' os' => f == f' && Field.equalList os os'
  | .scalar q, .scalar q' => q.equal q'
  | _, _ => false

def Field.equal : Field → Field → Bool
  | ⟨e, a, s, n⟩, ⟨e', a', s', n'⟩ => e.equal e' && a == a' && s == s' && n == n'

def Field.equalList : List Field → List Field → Bool
  | [], [] => true
  | f :: fs, f' :: fs' => f.equal f' && Field.equalList fs fs'
  | _, _ => false

def Field.equalRows : List (List Field) → List (List Field) → Bool
  | [], [] => true
  | r :: rs, r' :: rs' => Field.equalList r r' && Field.equalRows rs rs'
  | _, _ => false

def Predicate.equal : Predicate → Predicate → Bool
  | .compare l o r, .compare l' o' r' => l.equal l' && o == o' && r.equal r'
  | .isNull f n, .isNull f' n' => f.equal f' && n == n'
  | .inList f vs n, .inList f' vs' n' => f.equal f' && Field.equalList vs vs' && n == n'
  | .inQuery f q n, .inQuery f' q' n' => f.equal f' && q.equal q' && n == n'
  | .between f l h n, .between f' l' h' n' => f.equal f' && l.equal l' && h.equal h' && n == n'
  | .existsRow q n, .existsRow q' n' => q.equal q' && n == n'
  | .not p, .not p' => p.equal p'
  | .group o ps t, .group o' ps' t' => o == o' && Predicate.equalList ps ps' && t == t'
  | .holds f, .holds f' => f.equal f'
  | _, _ => false

def Predicate.equalList : List Predicate → List Predicate → Bool
  | [], [] => true
  | p :: ps, p' :: ps' => p.equal p' && Predicate.equalList ps ps'
  | _, _ => false

def Source.equal : Source → Source → Bool
  | .table t, .table t' => t == t'
  | .subquery q n, .subquery q' n' => q.equal q' && n == n'
  | .cte n a, .cte n' a' => n == n' && a == a'
  | _, _ => false

def Source.equalOption : Option Source → Option Source → Bool
  | none, none => true
  | some s, some s' => s.equal s'
  | _, _ => false

def Query.equalOption : Option Query → Option Query → Bool
  | none, none => true
  | some q, some q' => q.equal q'
  | _, _ => false

def RecursiveStep.equalOption : Option RecursiveStep → Option RecursiveStep → Bool
  | none, none => true
  | some ⟨k, q⟩, some ⟨k', q'⟩ => k == k' && q.equal q'
  | _, _ => false

def CteBody.equal : CteBody → CteBody → Bool
  | .plain q, .plain q' => Query.equalOption q q'
  | .recursive i s, .recursive i' s' => Query.equalOption i i' && RecursiveStep.equalOption s s'
  | _, _ => false

def Cte.equal : Cte → Cte → Bool
  | ⟨n, a, cs, b, m⟩, ⟨n', a', cs', b', m'⟩ =>
      n == n' && a == a' && cs == cs' && b.equal b' && m == m'

def Cte.equalList : List Cte → List Cte → Bool
  | [], [] => true
  | c :: cs, c' :: cs' => c.equal c' && Cte.equalList cs cs'
  | _, _ => false

def Join.equal : Join → Join → Bool
  | ⟨k, s, ps⟩, ⟨k', s', ps'⟩ => k == k' && s.equal s' && Predicate.equalList ps ps'

def Join.equalList : List Join → List Join → Bool
  | [], [] => true
  | j :: js, j' :: js' => j.equal j' && Join.equalList js js'
  | _, _ => false

def Assignment.equal : Assignment → Assignment → Bool
  | ⟨t, v⟩, ⟨t', v'⟩ => t.equal t' && v.equal v'

def Assignment.equalList : List Assignment → List Assignment → Bool
  | [], [] => true
  | a :: as, a' :: as' => a.equal a' && Assignment.equalList as as'
  | _, _ => false

def ConflictAction.equal : ConflictAction → ConflictAction → Bool
  | .nothing, .nothing => true
  | .update as, .update as' => Assignment.equalList as as'
  | _, _ => false

def Conflict.equalOption : Option Conflict → Option Conflict → Bool
  | none, none => true
  | some ⟨t, a⟩, some ⟨t', a'⟩ => Field.equalList t t' && a.equal a'
  | _, _ => false

def Select.equal : Select → Select → Bool
  | ⟨cs, d, fs, s, js, ws, gs, hs, os, l, o⟩, ⟨cs', d', fs', s', js', ws', gs', hs', os', l', o'⟩ =>
      Cte.equalList cs cs' && d == d' && Field.equalList fs fs' && Source.equalOption s s' &&
        Join.equalList js js' && Predicate.equalList ws ws' && Field.equalList gs gs' &&
        Predicate.equalList hs hs' && Field.equalList os os' && l == l' && o == o'

def Select.equalOption : Option Select → Option Select → Bool
  | none, none => true
  | some s, some s' => s.equal s'
  | _, _ => false

def Insert.equal : Insert → Insert → Bool
  | ⟨cs, t, fs, rs, s, c, os, e⟩, ⟨cs', t', fs', rs', s', c', os', e'⟩ =>
      Cte.equalList cs cs' && t == t' && Field.equalList fs fs' && Field.equalRows rs rs' &&
        Select.equalOption s s' && Conflict.equalOption c c' && Field.equalList os os' && e == e'

def Update.equal : Update → Update → Bool
  | ⟨cs, t, as, s, js, ws, os⟩, ⟨cs', t', as', s', js', ws', os'⟩ =>
      Cte.equalList cs cs' && t == t' && Assignment.equalList as as' && Source.equalOption s s' &&
        Join.equalList js js' && Predicate.equalList ws ws' && Field.equalList os os'

def Delete.equal : Delete → Delete → Bool
  | ⟨cs, t, ws, os, e⟩, ⟨cs', t', ws', os', e'⟩ =>
      Cte.equalList cs cs' && t == t' && Predicate.equalList ws ws' && Field.equalList os os' &&
        e == e'

def Query.equal : Query → Query → Bool
  | .select s, .select s' => s.equal s'
  | .insert i, .insert i' => i.equal i'
  | .update u, .update u' => u.equal u'
  | .delete d, .delete d' => d.equal d'
  | _, _ => false

end

/-- Whether two fields are the same expression, whatever their aliases and ordering. -/
def Field.sameExpr (f g : Field) : Bool := f.expr.equal g.expr

end SqlTree
