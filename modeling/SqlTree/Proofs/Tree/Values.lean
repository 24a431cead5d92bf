import SqlTree.Proofs.Renderer.Marks
import SqlTree.Proofs.Tree.Induction
import SqlTree.Proofs.Tree.Rendering

namespace SqlTree

variable (g : Value → Value)

mutual

/-- The expression with `g` applied to every value in it, at any depth. -/
def Expr.mapValues : Expr → Expr
  | .column table tableAlias name type => .column table tableAlias name type
  | .proposed name => .proposed name
  | .value v => .value (g v)
  | .shared name v => .shared name (g v)
  | .template format operands => .template format (Field.mapEach operands)
  | .scalar query => .scalar query.mapValues

def Field.mapValues : Field → Field
  | ⟨expr, asName, direction, nulls⟩ => ⟨expr.mapValues, asName, direction, nulls⟩

def Field.mapEach : List Field → List Field
  | [] => []
  | f :: rest => f.mapValues :: Field.mapEach rest

def Field.mapRows : List (List Field) → List (List Field)
  | [] => []
  | row :: rest => Field.mapEach row :: Field.mapRows rest

def Predicate.mapValues : Predicate → Predicate
  | .compare left op right => .compare left.mapValues op right.mapValues
  | .isNull field negated => .isNull field.mapValues negated
  | .inList field values negated => .inList field.mapValues (Field.mapEach values) negated
  | .inQuery field query negated => .inQuery field.mapValues query.mapValues negated
  | .between field low high negated =>
      .between field.mapValues low.mapValues high.mapValues negated
  | .existsRow query negated => .existsRow query.mapValues negated
  | .not inner => .not inner.mapValues
  | .group op members toplevel => .group op (Predicate.mapEach members) toplevel
  | .holds field => .holds field.mapValues

def Predicate.mapEach : List Predicate → List Predicate
  | [] => []
  | p :: rest => p.mapValues :: Predicate.mapEach rest

def Source.mapValues : Source → Source
  | .table t => .table t
  | .subquery query name => .subquery query.mapValues name
  | .cte name asName => .cte name asName

def Source.mapOption : Option Source → Option Source
  | none => none
  | some source => some source.mapValues

def Query.mapOption : Option Query → Option Query
  | none => none
  | some query => some query.mapValues

def RecursiveStep.mapOption : Option RecursiveStep → Option RecursiveStep
  | none => none
  | some ⟨kind, query⟩ => some ⟨kind, query.mapValues⟩

def CteBody.mapValues : CteBody → CteBody
  | .plain query => .plain (Query.mapOption query)
  | .recursive initial step => .recursive (Query.mapOption initial) (RecursiveStep.mapOption step)

def Cte.mapValues : Cte → Cte
  | ⟨name, asName, columns, body, hint⟩ => ⟨name, asName, columns, body.mapValues, hint⟩

def Cte.mapEach : List Cte → List Cte
  | [] => []
  | c :: rest => c.mapValues :: Cte.mapEach rest

def Join.mapValues : Join → Join
  | ⟨kind, source, conditions⟩ => ⟨kind, source.mapValues, Predicate.mapEach conditions⟩

def Join.mapEach : List Join → List Join
  | [] => []
  | j :: rest => j.mapValues :: Join.mapEach rest

def Assignment.mapValues : Assignment → Assignment
  | ⟨target, value⟩ => ⟨target.mapValues, value.mapValues⟩

def Assignment.mapEach : List Assignment → List Assignment
  | [] => []
  | a :: rest => a.mapValues :: Assignment.mapEach rest

def ConflictAction.mapValues : ConflictAction → ConflictAction
  | .nothing => .nothing
  | .update assignments => .update (Assignment.mapEach assignments)

def Conflict.mapOption : Option Conflict → Option Conflict
  | none => none
  | some ⟨target, action⟩ => some ⟨Field.mapEach target, action.mapValues⟩

def Select.mapValues : Select → Select
  | ⟨ctes, distinct, fields, source, joins, conditions, grouping, having, ordering, limit, offset⟩ =>
      ⟨Cte.mapEach ctes, distinct, Field.mapEach fields, Source.mapOption source,
        Join.mapEach joins, Predicate.mapEach conditions, Field.mapEach grouping,
        Predicate.mapEach having, Field.mapEach ordering, limit, offset⟩

def Select.mapOption : Option Select → Option Select
  | none => none
  | some s => some s.mapValues

def Insert.mapValues : Insert → Insert
  | ⟨ctes, table, columns, rows, source, conflict, returning, fault⟩ =>
      ⟨Cte.mapEach ctes, table, Field.mapEach columns, Field.mapRows rows,
        Select.mapOption source, Conflict.mapOption conflict, Field.mapEach returning, fault⟩

def Update.mapValues : Update → Update
  | ⟨ctes, table, assignments, source, joins, conditions, returning⟩ =>
      ⟨Cte.mapEach ctes, table, Assignment.mapEach assignments, Source.mapOption source,
        Join.mapEach joins, Predicate.mapEach conditions, Field.mapEach returning⟩

def Delete.mapValues : Delete → Delete
  | ⟨ctes, table, conditions, returning, everyRow⟩ =>
      ⟨Cte.mapEach ctes, table, Predicate.mapEach conditions, Field.mapEach returning, everyRow⟩

def Query.mapValues : Query → Query
  | .select s => .select s.mapValues
  | .insert i => .insert i.mapValues
  | .update u => .update u.mapValues
  | .delete d => .delete d.mapValues

end

section Lists

theorem Field.mapEach_eq_map (fields : List Field) :
    Field.mapEach g fields = fields.map (Field.mapValues g) := by
  induction fields with
  | nil => rfl
  | cons f rest ih => rw [Field.mapEach, ih, List.map_cons]

theorem Field.mapRows_eq_map (rows : List (List Field)) :
    Field.mapRows g rows = rows.map (List.map (Field.mapValues g)) := by
  induction rows with
  | nil => rfl
  | cons row rest ih => rw [Field.mapRows, ih, Field.mapEach_eq_map, List.map_cons]

theorem Predicate.mapEach_eq_map (members : List Predicate) :
    Predicate.mapEach g members = members.map (Predicate.mapValues g) := by
  induction members with
  | nil => rfl
  | cons p rest ih => rw [Predicate.mapEach, ih, List.map_cons]

theorem Cte.mapEach_eq_map (ctes : List Cte) :
    Cte.mapEach g ctes = ctes.map (Cte.mapValues g) := by
  induction ctes with
  | nil => rfl
  | cons c rest ih => rw [Cte.mapEach, ih, List.map_cons]

theorem Join.mapEach_eq_map (joins : List Join) :
    Join.mapEach g joins = joins.map (Join.mapValues g) := by
  induction joins with
  | nil => rfl
  | cons j rest ih => rw [Join.mapEach, ih, List.map_cons]

theorem Assignment.mapEach_eq_map (list : List Assignment) :
    Assignment.mapEach g list = list.map (Assignment.mapValues g) := by
  induction list with
  | nil => rfl
  | cons a rest ih => rw [Assignment.mapEach, ih, List.map_cons]

end Lists

/-! What a tree is apart from its values. -/

section Shape

variable (e : Expr) (f : Field)

@[simp] theorem Expr.name_mapValues : (e.mapValues g).name = e.name := by
  cases e <;> rfl

@[simp] theorem Expr.qualifier_mapValues : (e.mapValues g).qualifier = e.qualifier := by
  cases e <;> rfl

@[simp] theorem Expr.columnName?_mapValues : (e.mapValues g).columnName? = e.columnName? := by
  cases e <;> rfl

@[simp] theorem Expr.hasUnknownWidth_mapValues :
    (e.mapValues g).hasUnknownWidth = e.hasUnknownWidth := by
  cases e with
  | template format operands => cases operands <;> rfl
  | _ => rfl

@[simp] theorem Field.expr_mapValues : (f.mapValues g).expr = f.expr.mapValues g := by
  cases f; rfl

@[simp] theorem Field.asName_mapValues : (f.mapValues g).asName = f.asName := by
  cases f; rfl

@[simp] theorem Field.direction_mapValues : (f.mapValues g).direction = f.direction := by
  cases f; rfl

@[simp] theorem Field.nulls_mapValues : (f.mapValues g).nulls = f.nulls := by
  cases f; rfl

@[simp] theorem Field.name_mapValues : (f.mapValues g).name = f.name := by
  simp [Field.name]

@[simp] theorem Source.name_mapValues (source : Source) :
    (source.mapValues g).name = source.name := by
  cases source <;> rfl

@[simp] theorem Cte.isRecursive_mapValues (c : Cte) :
    (c.mapValues g).isRecursive = c.isRecursive := by
  rcases c with ⟨name, asName, columns, _ | _, hint⟩ <;> rfl

@[simp] theorem ignoresConflicts_mapValues (conflict : Option Conflict) :
    ignoresConflicts (Conflict.mapOption g conflict) = ignoresConflicts conflict := by
  rcases conflict with _ | ⟨target, _ | assignments⟩ <;> rfl

@[simp] theorem Query.width_mapValues (q : Query) : (q.mapValues g).width = q.width := by
  cases q with
  | select s =>
      cases s
      simp [Query.mapValues, Select.mapValues, Query.width, Field.mapEach_eq_map,
        Function.comp_def]
  | insert i =>
      cases i
      simp [Query.mapValues, Insert.mapValues, Query.width, Field.mapEach_eq_map]
  | update u =>
      cases u
      simp [Query.mapValues, Update.mapValues, Query.width, Field.mapEach_eq_map]
  | delete d =>
      cases d
      simp [Query.mapValues, Delete.mapValues, Query.width, Field.mapEach_eq_map]

end Shape

def Piece.mapValue : Piece → Piece
  | text s => text s
  | value v => value (g v)
  | shared name v => shared name (g v)

namespace Script

def mapValues (s : Script) : Script := ⟨s.pieces.map (Piece.mapValue g), s.fault⟩

def values (s : Script) : List Value := (Piece.slots s.pieces).map Prod.snd

theorem values_mapValues (s : Script) : (s.mapValues g).values = s.values.map g := by
  rcases s with ⟨pieces, fault⟩
  simp only [values, mapValues]
  induction pieces with
  | nil => rfl
  | cons p rest ih => cases p <;> simp [Piece.mapValue, ih]

section Writing

variable (d : Dialect) (a b : Script)

@[simp] theorem mapValues_append : (a ++ b).mapValues g = a.mapValues g ++ b.mapValues g := by
  rcases a with ⟨pieces, _ | fault⟩
  · show (⟨(pieces ++ b.pieces).map (Piece.mapValue g), b.fault⟩ : Script) =
      ⟨pieces.map (Piece.mapValue g) ++ b.pieces.map (Piece.mapValue g), b.fault⟩
    rw [List.map_append]
  · rfl

@[simp] theorem mapValues_empty : empty.mapValues g = empty := rfl

@[simp] theorem mapValues_failure (fault : Fault) : (failure fault).mapValues g = failure fault :=
  rfl

@[simp] theorem mapValues_text (s : String) : (text s).mapValues g = text s := rfl

@[simp] theorem mapValues_onlyIf (condition : Bool) :
    (onlyIf condition a).mapValues g = onlyIf condition (a.mapValues g) := by
  cases condition <;> rfl

@[simp] theorem mapValues_require (condition : Bool) (fault : Fault) :
    (require condition fault).mapValues g = require condition fault := by
  cases condition <;> rfl

@[simp] theorem mapValues_ident (name : String) : (ident d name).mapValues g = ident d name := by
  simp only [ident]
  cases Ident.write d name <;> rfl

@[simp] theorem mapValues_parens : (parens a).mapValues g = parens (a.mapValues g) := by
  simp [parens]

@[simp] theorem mapValues_separated (separator : String) (list : List Script) :
    (separated separator list).mapValues g = separated separator (list.map (mapValues g)) := by
  fun_induction separated separator list with
  | case1 => rfl
  | case2 s => rfl
  | case3 s rest more ih =>
      obtain ⟨next, others, rfl⟩ := List.exists_cons_of_ne_nil more
      simp only [mapValues_append, mapValues_text, ih, List.map_cons, separated]

@[simp] theorem mapValues_column (bare : List String) (qualifier name : String) :
    (column d bare qualifier name).mapValues g = column d bare qualifier name := by
  simp [column]

@[simp] theorem mapValues_proposed (name : String) :
    (proposed d name).mapValues g = proposed d name := by
  cases d <;> simp [proposed]

theorem mapValues_fill (texts : List (List Char)) (operands : List Script) :
    (fill texts operands).mapValues g = fill texts (operands.map (mapValues g)) := by
  fun_induction fill texts operands with
  | case1 => simp [fill]
  | case2 => simp [fill]
  | case3 first rest more ih => simp [fill, ih]
  | case4 first rest operand operands more ih => simp [fill, ih]

@[simp] theorem mapValues_template (format : String) (operands : List Script) :
    (template format operands).mapValues g = template format (operands.map (mapValues g)) := by
  simp [template, mapValues_fill]

@[simp] theorem mapValues_asClause (name : Option String) :
    (asClause d name).mapValues g = asClause d name := by
  cases name <;> simp [asClause]

@[simp] theorem mapValues_tableName (t : Table) : (tableName d t).mapValues g = tableName d t := by
  rcases t with ⟨_ | schema, name, asName⟩ <;> simp [tableName]

@[simp] theorem mapValues_table (t : Table) : (table d t).mapValues g = table d t := by
  simp [table]

@[simp] theorem mapValues_group (op : Connective) (outermost : Bool) (members : List Script) :
    (group op outermost members).mapValues g = group op outermost (members.map (mapValues g)) := by
  rcases members with _ | ⟨first, _ | ⟨second, rest⟩⟩
  · rfl
  · rfl
  · cases outermost <;> simp [group]

@[simp] theorem mapValues_conditions (keyword : String) (members : List Script) :
    (conditions keyword members).mapValues g = conditions keyword (members.map (mapValues g)) := by
  simp [conditions]

@[simp] theorem mapValues_withClause (ctes : List Cte) (definitions : List Script) :
    (withClause ctes definitions).mapValues g =
      withClause (Cte.mapEach g ctes) (definitions.map (mapValues g)) := by
  simp [withClause, Cte.mapEach_eq_map, Function.comp_def]

@[simp] theorem mapValues_materialization (hint : Option Bool) :
    (materialization d hint).mapValues g = materialization d hint := by
  cases hint <;> simp [materialization]

@[simp] theorem mapValues_checkWidth (node : Node) (columns : List String) (branch : CteBranch)
    (q : Query) : (checkWidth node columns branch q).mapValues g =
      checkWidth node columns branch (q.mapValues g) := by
  simp only [checkWidth, Query.width_mapValues]
  split <;> simp

@[simp] theorem mapValues_listClause (keyword : String) (items : List Script) :
    (listClause keyword items).mapValues g = listClause keyword (items.map (mapValues g)) := by
  simp [listClause]

@[simp] theorem mapValues_joinsClause (joins : List Script) :
    (joinsClause joins).mapValues g = joinsClause (joins.map (mapValues g)) := by
  simp [joinsClause]

@[simp] theorem mapValues_direction (direction : Option Direction) :
    (Script.direction direction).mapValues g = Script.direction direction := by
  rcases direction with _ | _ | _ <;> rfl

@[simp] theorem mapValues_nullPlace (nulls : Option NullPlace) :
    (nullPlace nulls).mapValues g = nullPlace nulls := by
  rcases nulls with _ | _ | _ <;> rfl

@[simp] theorem mapValues_bounds (limit offset : Option Int64) :
    (bounds d limit offset).mapValues g = bounds d limit offset := by
  rcases limit with _ | n <;> rcases offset with _ | m <;> rfl

@[simp] theorem mapValues_checkReturning (node : Node) (returning : List Field) :
    (checkReturning d node returning).mapValues g =
      checkReturning d node (Field.mapEach g returning) := by
  simp [checkReturning, Field.mapEach_eq_map]

end Writing

end Script

namespace Renderer

def mapValues (r : Renderer) : Renderer := { r with args := r.args.map g }

variable (r : Renderer)

theorem piece_mapValues (p : Piece) :
    (r.mapValues g).mark (p.mapValue g) = r.mark p ∧
      (r.mapValues g).bound (p.mapValue g) = (r.bound p).map g ∧
      (r.mapValues g).named (p.mapValue g) = r.named p := by
  cases p with
  | text s => exact ⟨rfl, rfl, rfl⟩
  | value v => simp [Piece.mapValue, mark, bound, named, mapValues]
  | shared name v =>
      refine ⟨by simp [Piece.mapValue, mark, numberOf, mapValues], ?_,
        by simp only [Piece.mapValue, named, mapValues, List.length_map]⟩
      simp only [Piece.mapValue, bound, mapValues]
      rw [apply_ite (List.map g)]
      rfl

theorem put_mapValues (p : Piece) :
    (r.mapValues g).put (p.mapValue g) = (r.put p).mapValues g := by
  obtain ⟨mark, bound, named⟩ := r.piece_mapValues g p
  rw [put_eq, put_eq, mark, bound, named]
  simp [mapValues]

theorem writePieces_mapValues (pieces : List Piece) :
    (r.mapValues g).writePieces (pieces.map (Piece.mapValue g)) =
      (r.writePieces pieces).mapValues g := by
  induction pieces generalizing r with
  | nil => rfl
  | cons p rest ih => rw [List.map_cons, writePieces_cons, put_mapValues, ih, writePieces_cons]

end Renderer

namespace Script

theorem build_mapValues (d : Dialect) (s : Script) :
    (s.mapValues g).build d = (s.build d).map fun b => ⟨b.sql, b.args.map g⟩ := by
  rcases s with ⟨pieces, _ | fault⟩
  · have written := (Renderer.new d).writePieces_mapValues g pieces
    have fresh : (Renderer.new d).mapValues g = Renderer.new d := rfl
    rw [fresh] at written
    simp only [build, mapValues, Renderer.write, written]
    rfl
  · rfl

@[simp] theorem shown_mapValues (name : String) (s : Script) :
    (s.mapValues g).shown name = s.shown name := by
  simp only [shown, build_mapValues]
  cases s.build .standard <;> rfl

end Script

/-- The script of a node with other values has those values, and is the same otherwise. -/
def NodeProperty.mapsValues : NodeProperty where
  expr e := ∀ d bare, (e.mapValues g).script d bare = (e.script d bare).mapValues g
  field f := ∀ d bare, (f.mapValues g).script d bare = (f.script d bare).mapValues g
  predicate p := (p.mapValues g).isEmpty = p.isEmpty ∧
    ∀ d bare place, (p.mapValues g).script d bare place = (p.script d bare place).mapValues g
  source s := ∀ d, (s.mapValues g).script d = (s.script d).mapValues g
  cte c := ∀ d, (c.mapValues g).script d = (c.script d).mapValues g
  join j := ∀ d, (j.mapValues g).script d = (j.script d).mapValues g
  assignment a := ∀ d targetBare valueBare, (a.mapValues g).script d targetBare valueBare =
    (a.script d targetBare valueBare).mapValues g
  select s := ∀ d, (s.mapValues g).script d = (s.script d).mapValues g
  insert i := ∀ d, (i.mapValues g).script d = (i.script d).mapValues g
  update u := ∀ d, (u.mapValues g).script d = (u.script d).mapValues g
  delete q := ∀ d, (q.mapValues g).script d = (q.script d).mapValues g

namespace MapValues

variable {g} (d : Dialect) (bare : List String)

theorem fields (list : List Field) (each : ∀ f ∈ list, (NodeProperty.mapsValues g).field f) :
    Field.scripts d bare (Field.mapEach g list) =
      (Field.scripts d bare list).map (Script.mapValues g) := by
  rw [Field.scripts_eq_map, Field.scripts_eq_map, Field.mapEach_eq_map, List.map_map, List.map_map]
  exact List.map_congr_left fun f member => each f member d bare

theorem outputs (list : List Field) (each : ∀ f ∈ list, (NodeProperty.mapsValues g).field f) :
    Field.outputs d bare (Field.mapEach g list) =
      (Field.outputs d bare list).map (Script.mapValues g) := by
  rw [Field.outputs_eq_map, Field.outputs_eq_map, Field.mapEach_eq_map, List.map_map, List.map_map]
  refine List.map_congr_left fun f member => ?_
  simp [each f member d bare]

theorem label (f : Field) (own : (NodeProperty.mapsValues g).field f) :
    (f.mapValues g).labelOf ((f.mapValues g).script d bare) = f.labelOf (f.script d bare) := by
  rw [own d bare]
  rcases f with ⟨expr, _ | asName, direction, nulls⟩
  · cases expr <;>
      simp only [Field.labelOf, Field.labelBy, Field.mapValues, Expr.mapValues,
        Script.shown_mapValues] <;> rfl
  · rfl

theorem orderings (list : List Field) (each : ∀ f ∈ list, (NodeProperty.mapsValues g).field f) :
    Field.orderings d (Field.mapEach g list) =
      (Field.orderings d list).map (Script.mapValues g) := by
  rw [Field.orderings_eq_map, Field.orderings_eq_map, Field.mapEach_eq_map, List.map_map,
    List.map_map]
  refine List.map_congr_left fun f member => ?_
  have own := each f member
  have called := label .standard [] f own
  simp only [Function.comp_apply, own d [], called, Script.mapValues_append,
    Script.mapValues_direction, Field.direction_mapValues, Field.nulls_mapValues]
  split <;> simp

theorem rows (list : List (List Field))
    (each : ∀ row ∈ list, ∀ f ∈ row, (NodeProperty.mapsValues g).field f) :
    Field.rows d bare (Field.mapRows g list) =
      (Field.rows d bare list).map (Script.mapValues g) := by
  rw [Field.rows_eq_map, Field.rows_eq_map, Field.mapRows_eq_map, List.map_map, List.map_map]
  refine List.map_congr_left fun row member => ?_
  have scripts := fields d bare row (each row member)
  rw [Field.scripts_eq_map, Field.scripts_eq_map, Field.mapEach_eq_map] at scripts
  simp [scripts]

theorem columnNames (node : Node) (first : Bool) (list : List Field)
    (each : ∀ f ∈ list, (NodeProperty.mapsValues g).field f) :
    Field.columnNames d node first (Field.mapEach g list) =
      (Field.columnNames d node first list).mapValues g := by
  induction list generalizing first with
  | nil => rfl
  | cons f rest ih =>
      obtain ⟨own, others⟩ := List.forall_mem_cons.mp each
      simp only [Field.mapEach, Field.columnNames, ih false others, own .standard [],
        Field.expr_mapValues, Expr.columnName?_mapValues, Field.name_mapValues,
        Script.shown_mapValues, Script.mapValues_append]
      congr 1
      cases f.expr.columnName? <;> simp

theorem allEmpty (list : List Predicate)
    (each : ∀ p ∈ list, (NodeProperty.mapsValues g).predicate p) :
    Predicate.allEmpty (Predicate.mapEach g list) = Predicate.allEmpty list := by
  induction list with
  | nil => rfl
  | cons p rest ih =>
      obtain ⟨own, others⟩ := List.forall_mem_cons.mp each
      rw [Predicate.mapEach, Predicate.allEmpty, own.1, ih others, Predicate.allEmpty]

theorem memberPlace (outermost : Bool) (list : List Predicate)
    (each : ∀ p ∈ list, (NodeProperty.mapsValues g).predicate p) :
    Predicate.memberPlace outermost (Predicate.mapEach g list) =
      Predicate.memberPlace outermost list := by
  have same : (list.map (Predicate.mapValues g)).countP (!·.isEmpty) =
      list.countP (!·.isEmpty) := by
    rw [List.countP_map]
    exact List.countP_congr fun p member => by simp [(each p member).1]
  rw [Predicate.memberPlace, Predicate.mapEach_eq_map, same, Predicate.memberPlace]

theorem predicates (place : Option Bool) (list : List Predicate)
    (each : ∀ p ∈ list, (NodeProperty.mapsValues g).predicate p) :
    Predicate.scripts d bare place (Predicate.mapEach g list) =
      (Predicate.scripts d bare place list).map (Script.mapValues g) := by
  induction list with
  | nil => rfl
  | cons p rest ih =>
      obtain ⟨own, others⟩ := List.forall_mem_cons.mp each
      simp only [Predicate.mapEach, Predicate.scripts, own.1, own.2 d bare place, ih others]
      split <;> rfl

theorem conditions (keyword : String) (list : List Predicate)
    (each : ∀ p ∈ list, (NodeProperty.mapsValues g).predicate p) :
    Script.conditions keyword (Predicate.scripts d []
        (Predicate.memberPlace true (Predicate.mapEach g list)) (Predicate.mapEach g list)) =
      (Script.conditions keyword
        (Predicate.scripts d [] (Predicate.memberPlace true list) list)).mapValues g := by
  rw [memberPlace true list each, predicates d [] _ list each, Script.mapValues_conditions]

theorem joins (list : List Join) (each : ∀ j ∈ list, (NodeProperty.mapsValues g).join j) :
    Join.scripts d (Join.mapEach g list) = (Join.scripts d list).map (Script.mapValues g) := by
  rw [Join.scripts_eq_map, Join.scripts_eq_map, Join.mapEach_eq_map, List.map_map, List.map_map]
  exact List.map_congr_left fun j member => each j member d

theorem ctes (list : List Cte) (each : ∀ c ∈ list, (NodeProperty.mapsValues g).cte c) :
    Script.withClause (Cte.mapEach g list) (Cte.scripts d (Cte.mapEach g list)) =
      (Script.withClause list (Cte.scripts d list)).mapValues g := by
  have scripts : Cte.scripts d (Cte.mapEach g list) =
      (Cte.scripts d list).map (Script.mapValues g) := by
    rw [Cte.scripts_eq_map, Cte.scripts_eq_map, Cte.mapEach_eq_map, List.map_map, List.map_map]
    exact List.map_congr_left fun c member => each c member d
  rw [scripts, Script.mapValues_withClause]

theorem assignments (targetBare valueBare : List String) (list : List Assignment)
    (each : ∀ a ∈ list, (NodeProperty.mapsValues g).assignment a) :
    Assignment.scripts d targetBare valueBare (Assignment.mapEach g list) =
      (Assignment.scripts d targetBare valueBare list).map (Script.mapValues g) := by
  rw [Assignment.scripts_eq_map, Assignment.scripts_eq_map, Assignment.mapEach_eq_map,
    List.map_map, List.map_map]
  exact List.map_congr_left fun a member => each a member d targetBare valueBare

theorem source (keyword : String) (source : Option Source)
    (each : ∀ x ∈ source, (NodeProperty.mapsValues g).source x) :
    Source.clause d keyword (Source.mapOption g source) =
      (Source.clause d keyword source).mapValues g := by
  cases source with
  | none => rfl
  | some source => simp [Source.mapOption, Source.clause, each source rfl d]

theorem query (q : Query) (own : (NodeProperty.mapsValues g).query q) :
    (q.mapValues g).script d = (q.script d).mapValues g := by
  cases q with
  | select s => exact own d
  | insert i => exact own d
  | update u => exact own d
  | delete q => exact own d

theorem cte (name : String) (asName : Option String) (columns : List String) (body : CteBody)
    (hint : Option Bool) (own : (body.mapValues g).script d name columns =
      (body.script d name columns).mapValues g) :
    (Cte.mapValues g ⟨name, asName, columns, body, hint⟩).script d =
      (Cte.script d ⟨name, asName, columns, body, hint⟩).mapValues g := by
  have names : Script.mapValues g ∘ Script.ident d = Script.ident d :=
    funext fun column => Script.mapValues_ident g d column
  simp [Cte.mapValues, Cte.script, own, names]

theorem conflict (table : Table) (c : Option Conflict)
    (target : ∀ x ∈ c, ∀ f ∈ x.target, (NodeProperty.mapsValues g).field f)
    (upsert : ∀ x ∈ c, ∀ a ∈ x.action.assignments, (NodeProperty.mapsValues g).assignment a) :
    Conflict.clause d table (Conflict.mapOption g c) =
      (Conflict.clause d table c).mapValues g := by
  rcases c with _ | ⟨target', action⟩
  · rfl
  have names := columnNames d (.insert table.name) true target' (target _ rfl)
  have none : (Field.mapEach g target').isEmpty = target'.isEmpty := by
    simp [Field.mapEach_eq_map]
  cases action with
  | nothing =>
      simp only [Conflict.mapOption, Conflict.clause, Conflict.script, ConflictAction.mapValues,
        names, none]
      split <;> simp
  | update list =>
      have updates := assignments d [table.qualifier] [table.qualifier] list (upsert _ rfl)
      simp only [Conflict.mapOption, Conflict.clause, Conflict.script, ConflictAction.mapValues,
        ConflictAction.scripts, names, none, updates]
      split <;> simp

end MapValues

open MapValues in
theorem mapsValues_hereditary :
    NodeProperty.Hereditary {} (NodeProperty.mapsValues g) where
  column table tableAlias name type _ d bare := by
    simp [Expr.mapValues, Expr.script]
  proposed name _ d bare := by
    simp [Expr.mapValues, Expr.script]
  value v _ d bare := by
    simp only [Expr.mapValues, Expr.script]
    rfl
  shared name v _ d bare := by
    simp only [Expr.mapValues, Expr.script]
    rfl
  template format operands _ each d bare := by
    simp only [Expr.mapValues, Expr.script, fields d bare operands each,
      Script.mapValues_template]
  scalar q _ own d bare := by
    simp only [Expr.mapValues, Expr.script, query d q own, Script.mapValues_parens]
  field f _ own d bare := by
    rw [Field.script_eq, Field.script_eq, Field.expr_mapValues, own d bare]
  compare left op right _ l r := by
    refine ⟨rfl, fun d bare place => ?_⟩
    simp [Predicate.mapValues, Predicate.script, l d bare, r d bare]
  isNull field negated _ f := by
    refine ⟨rfl, fun d bare place => ?_⟩
    simp [Predicate.mapValues, Predicate.script, f d bare]
  inList field values negated _ f vs := by
    refine ⟨rfl, fun d bare place => ?_⟩
    have none : (Field.mapEach g values).isEmpty = values.isEmpty := by
      simp [Field.mapEach_eq_map]
    simp only [Predicate.mapValues, Predicate.script, f d bare, fields d bare values vs, none,
      label .standard [] field f]
    split <;> simp
  inQuery field q negated _ f own := by
    refine ⟨rfl, fun d bare place => ?_⟩
    simp [Predicate.mapValues, Predicate.script, f d bare, query d q own]
  between field low high negated _ f l u := by
    refine ⟨rfl, fun d bare place => ?_⟩
    simp [Predicate.mapValues, Predicate.script, f d bare, l d bare, u d bare]
  existsRow q negated _ own := by
    refine ⟨rfl, fun d bare place => ?_⟩
    simp [Predicate.mapValues, Predicate.script, query d q own]
  not inner _ p := by
    refine ⟨p.1, fun d bare place => ?_⟩
    simp [Predicate.mapValues, Predicate.script, p.1, p.2 d bare none]
  group op members toplevel _ ps := by
    refine ⟨allEmpty members ps, fun d bare place => ?_⟩
    simp only [Predicate.mapValues, Predicate.script, memberPlace _ members ps,
      predicates d bare _ members ps, Script.mapValues_group]
  holds field _ f := by
    refine ⟨rfl, fun d bare place => ?_⟩
    simp only [Predicate.mapValues, Predicate.script, f d bare]
  table t _ d := by
    simp [Source.mapValues, Source.script]
  subquery q name _ own d := by
    simp [Source.mapValues, Source.script, query d q own]
  cteSource name asName _ d := by
    simp [Source.mapValues, Source.script]
  plainCte name asName columns q hint _ own d := by
    refine cte d name asName columns _ hint ?_
    cases q with
    | none => rfl
    | some q =>
        simp [CteBody.mapValues, Query.mapOption, CteBody.script, Query.plainBody,
          query d q (own q rfl)]
  recursiveCte name asName columns initial step hint _ i s d := by
    refine cte d name asName columns _ hint ?_
    rcases initial with _ | initial
    · rfl
    rcases step with _ | ⟨kind, step⟩
    · rfl
    simp [CteBody.mapValues, Query.mapOption, RecursiveStep.mapOption, CteBody.script,
      Script.recursiveBody, Query.scriptOrEmpty, RecursiveStep.scriptOrEmpty,
      query d initial (i initial rfl), query d step (s _ rfl)]
  join j _ s ps d := by
    rcases j with ⟨kind, source', list⟩
    simp only [Join.mapValues, Join.script, s d, conditions d " ON " list ps,
      Script.mapValues_append, Script.mapValues_text]
  assignment a _ t v d targetBare valueBare := by
    rcases a with ⟨target, value⟩
    simp only [Assignment.mapValues, Assignment.script, t d targetBare, v d valueBare,
      Script.mapValues_append, Script.mapValues_text]
  select s _ parts d := by
    rcases s with ⟨ctes', distinct, fields', source', joins', list, grouping, having, ordering,
      limit, offset⟩
    have noFields : (Field.mapEach g fields').isEmpty = fields'.isEmpty := by
      simp [Field.mapEach_eq_map]
    have noJoins : (Join.mapEach g joins').isEmpty = joins'.isEmpty := by
      simp [Join.mapEach_eq_map]
    have named : (Source.mapOption g source').map Source.name = source'.map Source.name := by
      cases source' <;> simp [Source.mapOption]
    have read : (Source.mapOption g source').isSome = source'.isSome := by
      cases source' <;> rfl
    simp only [Select.mapValues, Select.script, noFields, noJoins, named, read,
      ctes d ctes' parts.ctes, outputs d [] fields' parts.fields,
      source d " FROM " source' parts.source, joins d joins' parts.joins,
      conditions d " WHERE " list parts.conditions, fields d [] grouping parts.grouping,
      conditions d " HAVING " having parts.having, orderings d ordering parts.ordering,
      Script.mapValues_append, Script.mapValues_text, Script.mapValues_require,
      Script.mapValues_separated, Script.mapValues_joinsClause, Script.mapValues_listClause,
      Script.mapValues_bounds]
  insert i _ parts d := by
    rcases i with ⟨ctes', table, columns, rows', source', conflict', returning, fault⟩
    have noColumns : (Field.mapEach g columns).isEmpty = columns.isEmpty := by
      simp [Field.mapEach_eq_map]
    have noRows : (Field.mapRows g rows').isEmpty = rows'.isEmpty := by
      simp [Field.mapRows_eq_map]
    have read : (Select.mapOption g source').isSome = source'.isSome := by
      cases source' <;> rfl
    have selected : Select.clause d (Select.mapOption g source') =
        (Select.clause d source').mapValues g := by
      cases source' with
      | none => rfl
      | some s => simp [Select.mapOption, Select.clause, parts.source s rfl d]
    simp only [Insert.mapValues, Insert.script, noColumns, noRows, read, selected,
      ctes d ctes' parts.ctes, ignoresConflicts_mapValues,
      columnNames d (.insert table.name) true columns parts.columns,
      rows d [table.qualifier] rows' parts.rows,
      conflict d table conflict' parts.target parts.upsert,
      outputs d [table.qualifier] returning parts.returning, Script.mapValues_append,
      Script.mapValues_text, Script.mapValues_checkReturning, Script.mapValues_onlyIf,
      Script.mapValues_parens, Script.mapValues_listClause, apply_ite (Script.mapValues g),
      Script.mapValues_tableName, Script.mapValues_table, Script.mapValues_separated,
      Script.mapValues_failure]
    cases fault <;> rfl
  update u _ parts d := by
    rcases u with ⟨ctes', table, assignments', source', joins', list, returning⟩
    have noAssignments : (Assignment.mapEach g assignments').isEmpty = assignments'.isEmpty := by
      simp [Assignment.mapEach_eq_map]
    have noJoins : (Join.mapEach g joins').isEmpty = joins'.isEmpty := by
      simp [Join.mapEach_eq_map]
    have read : (Source.mapOption g source').isSome = source'.isSome := by
      cases source' <;> rfl
    simp only [Update.mapValues, Update.script, noAssignments, noJoins, read,
      ctes d ctes' parts.ctes, assignments d _ _ assignments' parts.assignments,
      source d _ source' parts.source, joins d joins' parts.joins,
      conditions d " WHERE " list parts.conditions, outputs d _ returning parts.returning,
      Script.mapValues_append, Script.mapValues_text, Script.mapValues_require,
      Script.mapValues_checkReturning, Script.mapValues_table, Script.mapValues_separated,
      Script.mapValues_joinsClause, Script.mapValues_listClause, apply_ite (Script.mapValues g)]
  delete q _ parts d := by
    rcases q with ⟨ctes', table, list, returning, everyRow⟩
    simp only [Delete.mapValues, Delete.script, ctes d ctes' parts.ctes,
      allEmpty list parts.conditions, conditions d " WHERE " list parts.conditions,
      outputs d [table.qualifier] returning parts.returning, Script.mapValues_append,
      Script.mapValues_text, Script.mapValues_require, Script.mapValues_checkReturning,
      Script.mapValues_table, Script.mapValues_listClause]

theorem Query.script_mapValues (q : Query) (d : Dialect) :
    (q.mapValues g).script d = (q.script d).mapValues g := by
  have always : NodeProperty.Always {} := {}
  exact MapValues.query d q ((mapsValues_hereditary g).of_query q (always.each_query q))

/-- Other values in the same places make a statement fail with the same error, or give it the same
text with those values as its arguments. -/
theorem Query.text_independent_of_values (q : Query) (d : Dialect) :
    (q.mapValues g).build d = (q.build d).map fun b => ⟨b.sql, b.args.map g⟩ := by
  rw [Query.build_eq_script, Query.script_mapValues, Script.build_mapValues, Query.build_eq_script]
  cases (q.script d).build d <;> rfl

end SqlTree
