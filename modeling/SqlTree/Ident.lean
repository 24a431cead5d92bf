import SqlTree.Dialect

namespace SqlTree.Ident

def isLead (c : Char) : Bool := c == '_' || c.isAlpha

def isTail (c : Char) : Bool := c == '_' || c.isAlphanum

/-- A letter or underscore followed by letters, digits and underscores, all of them ASCII. -/
def isPlain : List Char → Bool
  | [] => false
  | c :: rest => isLead c && rest.all isTail

def doubled (quote : Char) : List Char → List Char
  | [] => []
  | c :: rest => if c = quote then quote :: quote :: doubled quote rest else c :: doubled quote rest

def quoted (quote : Char) (name : List Char) : List Char :=
  quote :: (doubled quote name ++ [quote])

inductive Refusal where
  | empty
  | nul
  deriving DecidableEq, Repr

def Refusal.message : Refusal → String
  | empty => "Identifier cannot be empty"
  | nul => "Identifier cannot contain NUL character"

def write (d : Dialect) (name : String) : Except Refusal String :=
  let chars := name.toList
  if chars.isEmpty then .error .empty
  else if chars.contains '\x00' then .error .nul
  else if isPlain chars then .ok name
  else .ok (String.ofList (quoted d.quote chars))

end SqlTree.Ident
