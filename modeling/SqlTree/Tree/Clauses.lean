import SqlTree.Renderer
import SqlTree.Text.Integer
import SqlTree.Tree.Emptiness
import SqlTree.Tree.Width

namespace SqlTree

def Comparison.symbol : Comparison → String
  | eq => "="
  | ne => "<>"
  | lt => "<"
  | le => "<="
  | gt => ">"
  | ge => ">="
  | like => "LIKE"
  | notLike => "NOT LIKE"

def Connective.separator : Connective → String
  | and => " AND "
  | or => " OR "

def UnionKind.separator : UnionKind → String
  | distinct => " UNION "
  | all => " UNION ALL "

/-- A keyword of one's own is trimmed; a blank one means a plain join. -/
def JoinKind.keyword : JoinKind → String
  | inner => "JOIN"
  | left => "LEFT JOIN"
  | right => "RIGHT JOIN"
  | full => "FULL JOIN"
  | custom keyword =>
      let trimmed := Text.trim keyword.toList
      if trimmed.isEmpty then "JOIN" else String.ofList trimmed

def Cte.node (c : Cte) : Node := .cte c.name c.isRecursive

/-- How a field is called in messages: its alias, its qualified name, or its text. -/
def Field.labelBy (f : Field) (text : String) : String :=
  match f.asName, f.expr with
  | some name, _ => name
  | none, .column _ _ name _ =>
      if f.qualifier = "" then name else f.qualifier ++ "." ++ name
  | none, _ => text

def Field.labelOf (f : Field) (own : Script) : String := f.labelBy (own.shown f.name)

def ignoresConflicts : Option Conflict → Bool
  | some ⟨_, .nothing⟩ => true
  | _ => false

namespace Script

def parens (s : Script) : Script := text "(" ++ s ++ text ")"

/-- A column behind its qualifier, unless that is empty or among those left out. -/
def column (d : Dialect) (bare : List String) (qualifier name : String) : Script :=
  onlyIf (qualifier ≠ "" && !bare.contains qualifier) (ident d qualifier ++ text ".") ++ ident d name

def proposed (d : Dialect) (name : String) : Script :=
  match d with
  | .mysql => text "VALUES(" ++ ident d name ++ text ")"
  | .sqlite | .postgres => text "EXCLUDED." ++ ident d name

/-- The texts around the slots of a template; there is always one more than there are slots. -/
def slotTexts : List Char → List (List Char)
  | [] => [[]]
  | c :: rest =>
      if c = '?' then [] :: slotTexts rest
      else match slotTexts rest with
        | [] => [[c]]
        | first :: others => (c :: first) :: others

theorem slotTexts_ne_nil (format : List Char) : slotTexts format ≠ [] := by
  cases format with
  | nil => exact List.cons_ne_nil _ _
  | cons c rest =>
      simp only [slotTexts]
      split
      · exact List.cons_ne_nil _ _
      · split <;> exact List.cons_ne_nil _ _

theorem slotTexts_cons {c : Char} (plain : c ≠ '?') (rest : List Char) :
    ∃ first others, slotTexts rest = first :: others ∧
      slotTexts (c :: rest) = (c :: first) :: others := by
  obtain ⟨first, others, split⟩ := List.exists_cons_of_ne_nil (slotTexts_ne_nil rest)
  exact ⟨first, others, split, by simp [slotTexts, plain, split]⟩

/-- Fills the slots in order; a slot without an operand stays a question mark. -/
def fill : List (List Char) → List Script → Script
  | [], _ => empty
  | [last], _ => text (String.ofList last)
  | first :: rest, [] => text (String.ofList first) ++ text "?" ++ fill rest []
  | first :: rest, operand :: operands => text (String.ofList first) ++ operand ++ fill rest operands

theorem fault_fill (texts : List (List Char)) (operands : List Script) (fault : Fault)
    (found : (fill texts operands).fault = some fault) :
    ∃ s ∈ operands, s.fault = some fault := by
  fun_induction fill texts operands with
  | case1 => exact nomatch found
  | case2 last => exact nomatch found
  | case3 first rest more ih =>
      rw [fault_append, fault_append] at found
      exact ih found
  | case4 first rest operand operands more ih =>
      rw [fault_append, fault_append, Option.or_eq_some_iff] at found
      rcases found with own | ⟨_, later⟩
      · exact ⟨operand, List.mem_cons_self, own⟩
      · obtain ⟨s, member, same⟩ := ih later
        exact ⟨s, List.mem_cons_of_mem operand member, same⟩

def template (format : String) (operands : List Script) : Script :=
  let texts := slotTexts format.toList
  let unused := operands.length - (texts.length - 1)
  fill texts operands ++
    require (unused == 0) (.malformed (.template format) (.unusedOperands unused))

def asClause (d : Dialect) : Option String → Script
  | none => empty
  | some name => text " AS " ++ ident d name

def tableName (d : Dialect) (t : Table) : Script :=
  (match t.schema with
    | none => empty
    | some schema => ident d schema ++ text ".") ++ ident d t.name

def table (d : Dialect) (t : Table) : Script := tableName d t ++ asClause d t.asName

/-- The members of a group that write text: none, one by itself, or several between parentheses
unless the group is outermost. -/
def group (op : Connective) (outermost : Bool) (members : List Script) : Script :=
  match members with
  | [] => empty
  | [s] => s
  | _ =>
      if outermost then separated op.separator members
      else parens (separated op.separator members)

/-- The conditions of a clause, left out if none of them writes text. -/
def conditions (keyword : String) (members : List Script) : Script :=
  onlyIf (!members.isEmpty) (text keyword ++ group .and true members)

def withClause (ctes : List Cte) (definitions : List Script) : Script :=
  onlyIf (!ctes.isEmpty) (text "WITH " ++ onlyIf (ctes.any Cte.isRecursive) (text "RECURSIVE ") ++
    separated ", " definitions ++ text " ")

def materialization (d : Dialect) : Option Bool → Script
  | none => empty
  | some hint =>
      onlyIf (d == .postgres) (text (if hint then "MATERIALIZED " else "NOT MATERIALIZED "))

/-- Refuses a query whose known width is not the number of declared columns. -/
def checkWidth (node : Node) (columns : List String) (branch : CteBranch) (q : Query) : Script :=
  match q.width with
  | none => empty
  | some width =>
      require (columns.isEmpty || width == columns.length)
        (.malformed node (.columnCount columns.length branch width))

/-- Neither branch of a recursive body may be missing, nor have another width than declared. -/
def recursiveBody (name : String) (columns : List String) (initial : Option Query)
    (step : Option RecursiveStep) (initialScript stepScript : Script) : Script :=
  let node := Node.cte name true
  match initial, step with
  | none, _ => failure (.malformed node .noInitial)
  | some _, none => failure (.malformed node .noStep)
  | some i, some s =>
      checkWidth node columns .initial i ++ checkWidth node columns .step s.query ++
        initialScript ++ text s.kind.separator ++ stepScript

def listClause (keyword : String) (items : List Script) : Script :=
  onlyIf (!items.isEmpty) (text keyword ++ separated ", " items)

def joinsClause (joins : List Script) : Script :=
  onlyIf (!joins.isEmpty) (text " " ++ separated " " joins)

def direction : Option Direction → Script
  | none => empty
  | some .ascending => text " ASC"
  | some .descending => text " DESC"

def nullPlace : Option NullPlace → Script
  | none => empty
  | some .first => text " NULLS FIRST"
  | some .last => text " NULLS LAST"

def integer (n : Int64) : Script := text (SqlTree.Text.integer n.toInt)

/-- Where an OFFSET needs a LIMIT before it, one that excludes nothing is written. -/
def bounds (d : Dialect) (limit offset : Option Int64) : Script :=
  match limit, offset with
  | none, none => empty
  | some n, none => text " LIMIT " ++ integer n
  | some n, some m => text " LIMIT " ++ integer n ++ text " OFFSET " ++ integer m
  | none, some m =>
      text (match d with
        | .postgres => " OFFSET "
        | .sqlite => " LIMIT -1 OFFSET "
        | .mysql => " LIMIT 18446744073709551615 OFFSET ") ++ integer m

def checkReturning (d : Dialect) (node : Node) (returning : List Field) : Script :=
  require (returning.isEmpty || d.returning) (.malformed node (.returningUnsupported d))

end Script

end SqlTree
