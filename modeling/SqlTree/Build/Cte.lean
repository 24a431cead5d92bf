import SqlTree.Tree.Basic

namespace SqlTree.Cte

/-- Without a query the body is NULL. -/
def plain (name : String) (query : Option Query) : Cte := ⟨name, none, [], .plain query, none⟩

/-- An empty alias clears it. -/
def aliased (c : Cte) (name : String) : Cte :=
  { c with asName := if name = "" then none else some name }

inductive PlainCall where
  | asName (name : String)
  | columns (names : List String)
  | materialized (hint : Bool)

def plainCall (c : Cte) : PlainCall → Cte
  | .asName name => c.aliased name
  | .columns names => { c with columns := names }
  | .materialized hint => { c with materialized := some hint }

def plainCalls (c : Cte) (list : List PlainCall) : Cte := list.foldl plainCall c

def recursive (name : String) (columns : List String) : Cte :=
  ⟨name, none, columns, .recursive none none, none⟩

inductive RecursiveCall where
  | initial (query : Query)
  | step (kind : UnionKind) (query : Query)
  | asName (name : String)
  | materialized (hint : Bool)

/-- Only a recursive body takes an initial query and a step. -/
def recursiveCall (c : Cte) : RecursiveCall → Cte
  | .initial query =>
      match c.body with
      | .recursive _ step => { c with body := .recursive (some query) step }
      | .plain _ => c
  | .step kind query =>
      match c.body with
      | .recursive initial _ => { c with body := .recursive initial (some ⟨kind, query⟩) }
      | .plain _ => c
  | .asName name => c.aliased name
  | .materialized hint => { c with materialized := some hint }

def recursiveCalls (c : Cte) (list : List RecursiveCall) : Cte := list.foldl recursiveCall c

end SqlTree.Cte
