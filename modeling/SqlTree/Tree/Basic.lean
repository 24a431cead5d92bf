import SqlTree.Value

namespace SqlTree

/-- A physical table; its alias, if any, is what its columns are qualified with. -/
structure Table where
  schema : Option String
  name : String
  asName : Option String
  deriving DecidableEq, Repr

inductive ColumnType where
  | blob
  | boolean
  | json
  | number
  | string
  | time
  | uuid
  | custom
  deriving DecidableEq, Repr

inductive Direction where
  | ascending
  | descending
  deriving DecidableEq, Repr

inductive NullPlace where
  | first
  | last
  deriving DecidableEq, Repr

inductive Comparison where
  | eq
  | ne
  | lt
  | le
  | gt
  | ge
  | like
  | notLike
  deriving DecidableEq, Repr

inductive Connective where
  | and
  | or
  deriving DecidableEq, Repr

inductive UnionKind where
  | distinct
  | all
  deriving DecidableEq, Repr

inductive JoinKind where
  | inner
  | left
  | right
  | full
  | custom (keyword : String)
  deriving DecidableEq, Repr

/-- Why the rows collected for an INSERT do not fit its columns. Rows are counted from 1. -/
inductive RowFault where
  | valueCount (row values columns : Nat)
  | unknownColumn (row : Nat) (column : String)
  | missingColumn (row : Nat) (column : String)
  deriving DecidableEq, Repr

mutual

inductive Expr where
  /-- an empty alias means that there is none -/
  | column (table tableAlias name : String) (type : ColumnType)
  /-- a column of the row that an upsert proposes -/
  | proposed (name : String)
  | value (v : Value)
  /-- a value with one placeholder per name where placeholders are numbered -/
  | shared (name : String) (v : Value)
  /-- text whose question marks are slots for the operands -/
  | template (format : String) (operands : List Field)
  | scalar (query : Query)

/-- An expression with the name of its output column and its place in an ordering. -/
structure Field where
  expr : Expr
  asName : Option String
  direction : Option Direction
  nulls : Option NullPlace

inductive Predicate where
  | compare (left : Field) (op : Comparison) (right : Field)
  | isNull (field : Field) (negated : Bool)
  | inList (field : Field) (values : List Field) (negated : Bool)
  | inQuery (field : Field) (query : Query) (negated : Bool)
  | between (field low high : Field) (negated : Bool)
  | existsRow (query : Query) (negated : Bool)
  | not (inner : Predicate)
  | group (op : Connective) (members : List Predicate) (toplevel : Bool)
  | holds (field : Field)

inductive Source where
  | table (t : Table)
  | subquery (query : Query) (name : String)
  | cte (name : String) (asName : Option String)

structure RecursiveStep where
  kind : UnionKind
  query : Query

inductive CteBody where
  | plain (query : Option Query)
  | recursive (initial : Option Query) (step : Option RecursiveStep)

structure Cte where
  name : String
  asName : Option String
  columns : List String
  body : CteBody
  materialized : Option Bool

/-- The conditions are a conjunction in an outermost place, as in all joins that are made. A group that
is joined in another way is their one member, and is written as it would be in their place. -/
structure Join where
  kind : JoinKind
  source : Source
  conditions : List Predicate

structure Assignment where
  target : Field
  value : Field

inductive ConflictAction where
  | nothing
  | update (assignments : List Assignment)

structure Conflict where
  target : List Field
  action : ConflictAction

structure Select where
  ctes : List Cte
  distinct : Bool
  fields : List Field
  source : Option Source
  joins : List Join
  conditions : List Predicate
  grouping : List Field
  having : List Predicate
  ordering : List Field
  limit : Option Int64
  offset : Option Int64

structure Insert where
  ctes : List Cte
  table : Table
  columns : List Field
  rows : List (List Field)
  source : Option Select
  conflict : Option Conflict
  returning : List Field
  /-- the first fault found while rows were collected -/
  fault : Option RowFault

structure Update where
  ctes : List Cte
  table : Table
  assignments : List Assignment
  source : Option Source
  joins : List Join
  conditions : List Predicate
  returning : List Field

structure Delete where
  ctes : List Cte
  table : Table
  conditions : List Predicate
  returning : List Field
  /-- whether a DELETE without conditions is meant -/
  everyRow : Bool

inductive Query where
  | select (s : Select)
  | insert (i : Insert)
  | update (u : Update)
  | delete (d : Delete)

end

end SqlTree
