import SqlTree.Text.Blank
import SqlTree.Tree.Naming

namespace SqlTree

/-- Looks for a comma outside quotes and parentheses; `quote` is the quote that is open. -/
def scanComma (quote : Option Char) (depth : Nat) : List Char → Bool
  | [] => false
  | c :: rest =>
      match quote with
      | some q => scanComma (if c = q then none else some q) depth rest
      | none =>
          if c = '\'' ∨ c = '"' ∨ c = '\x60' then scanComma (some c) depth rest
          else if c = '(' then scanComma none (depth + 1) rest
          else if c = ')' then scanComma none (depth - 1) rest
          else if c = ',' ∧ depth = 0 then true
          else scanComma none depth rest

def hasTopLevelComma (text : String) : Bool := scanComma none 0 text.toList

/-- Raw text that is or ends in a star, or has a comma at its top level. -/
def Expr.hasUnknownWidth : Expr → Bool
  | .template format [] =>
      let chars := format.toList
      Text.trim chars == ['*'] ||
        (Text.trimEnd chars).reverse.take 2 == ['*', '.'] || hasTopLevelComma format
  | _ => false

namespace Query

def width : Query → Option Nat
  | select s =>
      if s.fields.isEmpty || s.fields.any (·.expr.hasUnknownWidth) then none
      else some s.fields.length
  | insert i => if i.returning.isEmpty then none else some i.returning.length
  | update u => if u.returning.isEmpty then none else some u.returning.length
  | delete d => if d.returning.isEmpty then none else some d.returning.length

def returnsRows : Query → Bool
  | select _ => true
  | insert i => !i.returning.isEmpty
  | update u => !u.returning.isEmpty
  | delete d => !d.returning.isEmpty

end Query

end SqlTree
