import SqlTree.Fault
import SqlTree.Text.Blank
import SqlTree.Time.Span

namespace SqlTree

/-- Why a column cannot be read; the message is all that is told of it. -/
inductive DecodeCause where
  | unprojected
  /-- the row ends before the column at this place, counted from one -/
  | rowEnds (length place : Nat)
  | value (message : String)
  deriving DecidableEq, Repr

def DecodeCause.message : DecodeCause → String
  | unprojected => "field is not part of the projection"
  | rowEnds length place =>
      "row has " ++ length.repr ++ " column(s), field is column " ++ place.repr
  | value message => message

inductive Error where
  | render (node message : String)
  /-- a statement failed while running; only its identity is told, never its text or values -/
  | execute (statement : StatementId) (source : Error)
  /-- the detail is worded by the client -/
  | query (detail : String)
  | notFound (message : String)
  | uniqueViolation (message : String)
  | foreignKeyViolation (message : String)
  | checkViolation (message : String)
  | decode (column : String) (cause : DecodeCause)
  | validation (message : String)
  | timeout (limit : Span)
  | other (message : String)
  deriving DecidableEq, Repr

/-- Stands for the place in a program that ran a statement. -/
def openSite : String := "<site>"

namespace Error

/-- The innermost error, behind all that `execute` adds. -/
def root : Error → Error
  | execute _ source => source.root
  | e => e

def text : Error → String
  | render node message => "Render error in " ++ node ++ ": " ++ message
  | execute statement source =>
      statement.text ++ " failed at " ++ openSite ++ ": " ++ source.text
  | query detail => "Query error: " ++ detail
  | notFound message => "Not found: " ++ message
  | uniqueViolation message => "Unique constraint violation: " ++ message
  | foreignKeyViolation message => "Foreign key violation: " ++ message
  | checkViolation message => "Check constraint violation: " ++ message
  | decode column cause => "Decode error on column '" ++ column ++ "': " ++ cause.message
  | validation message => "Validation error: " ++ message
  | timeout limit => "Query timeout after " ++ limit.text
  | other message => message

def isRender (e : Error) : Bool :=
  match e.root with
  | render _ _ => true
  | _ => false

def isUniqueViolation (e : Error) : Bool :=
  match e.root with
  | uniqueViolation _ => true
  | _ => false

def isNotFound (e : Error) : Bool :=
  match e.root with
  | notFound _ => true
  | _ => false

def isTimeout (e : Error) : Bool :=
  match e.root with
  | timeout _ => true
  | _ => false

def unencodable (detail : String) : Error := validation ("cannot encode JSON value: " ++ detail)

theorem root_root (e : Error) : e.root.root = e.root := by
  induction e <;> simp_all [root]

end Error

def Fault.toError : Fault → Error
  | identifier refusal => .validation refusal.message
  | malformed node cause => .render node.text cause.message

namespace Dialect

/-- Reads a name in any case, with blanks around it. -/
def read (text : String) : Except Error Dialect :=
  let name := String.ofList ((Text.trim text.toList).map Char.toLower)
  match named? name with
  | some d => .ok d
  | none => .error (.validation ("unknown SQL dialect '" ++ name ++ "'"))

end Dialect

end SqlTree
