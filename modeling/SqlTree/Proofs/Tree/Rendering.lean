import Mathlib.Data.List.Forall2
import SqlTree.Proofs.Steps
import SqlTree.Proofs.Tree.Induction
import SqlTree.Statement

/-!
Rendering a node writes its script: whatever a renderer holds already, the pieces go into it in
order, up to the fault of the script, which is the fault of the rendering.
-/

namespace SqlTree

namespace Renderer

theorem writePieces_dialect (r : Renderer) (pieces : List Piece) :
    (r.writePieces pieces).dialect = r.dialect := by
  induction pieces generalizing r with
  | nil => rfl
  | cons p rest ih => exact (ih (r.put p)).trans (r.put_dialect p)

end Renderer

namespace Rendering

/-- On every renderer of the dialect, what is written is the script, and what fails is its fault. -/
def Writes (d : Dialect) (m : Rendering) (s : Script) : Prop :=
  ∀ r : Renderer, r.dialect = d → m.on r = (r.write s, s.fault)

theorem on_seq (m n : Rendering) (r : Renderer) :
    on (do m; n) r =
      match m.on r with
      | (after, none) => n.on after
      | (after, some fault) => (after, some fault) := by
  unfold on
  rcases run : m.run r with ⟨fault | _, after⟩
  · rw [Steps.bind_error run]
  · rw [Steps.bind_ok run]

namespace Writes

variable {d : Dialect} {m n : Rendering} {s t : Script}

theorem nothing : Writes d (pure ()) .empty := fun _ _ => rfl

theorem failure (fault : Fault) : Writes d (throw fault) (.failure fault) := fun _ _ => rfl

theorem text (k : String) : Writes d (Rendering.text k) (.text k) := fun _ _ => rfl

theorem value (v : Value) : Writes d (Rendering.value v) (.ofPiece (.value v)) := fun _ _ => rfl

theorem shared (name : String) (v : Value) :
    Writes d (Rendering.shared name v) (.ofPiece (.shared name v)) := fun _ _ => rfl

theorem seq (first : Writes d m s) (second : Writes d n t) : Writes d (do m; n) (s ++ t) := by
  intro r same
  rw [on_seq, first r same]
  rcases s with ⟨pieces, _ | fault⟩
  · have kept : (r.writePieces pieces).dialect = d := (r.writePieces_dialect pieces).trans same
    refine (second _ kept).trans ?_
    show ((r.writePieces pieces).writePieces t.pieces, t.fault) =
      (r.writePieces (pieces ++ t.pieces), t.fault)
    rw [Renderer.writePieces_append]
  · rfl

theorem forDialect {m : Dialect → Rendering} (own : Writes d (m d) s) :
    Writes d (Rendering.forDialect m) s := by
  rintro r rfl
  exact own r rfl

theorem ident (name : String) : Writes d (Rendering.ident name) (.ident d name) := by
  refine forDialect ?_
  rw [Script.ident]
  cases Ident.write d name with
  | ok written => exact text written
  | error refusal => exact failure (.identifier refusal)

theorem onlyIf (condition : Bool) (inner : Writes d m s) :
    Writes d (Rendering.onlyIf condition m) (.onlyIf condition s) := by
  cases condition with
  | true => exact inner
  | false => exact nothing

theorem require (condition : Bool) (fault : Fault) :
    Writes d (Rendering.require condition fault) (.require condition fault) := by
  cases condition with
  | true => exact nothing
  | false => exact failure fault

theorem parens (inner : Writes d m s) : Writes d (Rendering.parens m) (.parens s) := by
  rw [Script.parens, Script.append_assoc]
  exact (text "(").seq (inner.seq (text ")"))

section Lists

variable {list : List Rendering} {scripts : List Script}

theorem separatedRest (separator : String) (each : List.Forall₂ (Writes d) list scripts)
    (first : Writes d m s) :
    Writes d (do m; Rendering.separated separator false list)
      (Script.separated separator (s :: scripts)) := by
  induction each generalizing m s with
  | nil =>
      have ends := first.seq (nothing (d := d))
      rwa [Script.append_empty] at ends
  | cons own others ih =>
      show Writes d _ (s ++ Script.text separator ++ Script.separated separator (_ :: _))
      rw [Script.append_assoc]
      exact first.seq ((text separator).seq (ih own))

theorem separated (separator : String) (each : List.Forall₂ (Writes d) list scripts) :
    Writes d (Rendering.separated separator true list) (Script.separated separator scripts) := by
  cases each with
  | nil => exact nothing
  | cons own others =>
      have all := (nothing (d := d)).seq (separatedRest separator others own)
      rwa [Script.empty_append] at all

/-! ### Templates -/

theorem fillSlots (format : String) (before : List Char) {chars first : List Char}
    {others : List (List Char)}
    (split : Script.slotTexts chars = first :: others)
    (each : List.Forall₂ (Writes d) list scripts) :
    Writes d (Rendering.fillSlots format before chars list)
      (Script.fill ((before ++ first) :: others) scripts ++
        .require (scripts.length - others.length == 0) (.malformed (.template format)
          (.unusedOperands (scripts.length - others.length)))) := by
  induction chars generalizing before list scripts first others with
  | nil =>
      obtain ⟨rfl, rfl⟩ := List.cons.inj split
      have none : list.isEmpty = (scripts.length == 0) := by
        rw [← each.length_eq]
        cases list <;> rfl
      rw [Rendering.fillSlots, none, each.length_eq, List.append_nil]
      exact (text (String.ofList before)).seq (require _ _)
  | cons c rest ih =>
      unfold Rendering.fillSlots
      by_cases slot : c = '?'
      · obtain ⟨next, more, inner⟩ := List.exists_cons_of_ne_nil (Script.slotTexts_ne_nil rest)
        rw [Script.slotTexts, if_pos slot, inner] at split
        obtain ⟨rfl, rfl⟩ := List.cons.inj split
        rw [if_pos slot, List.append_nil]
        cases each with
        | nil =>
            have later := ih [] inner .nil
            have filled : Script.fill (before :: next :: more) [] =
                .text (String.ofList before) ++ .text "?" ++ Script.fill (next :: more) [] := rfl
            rw [List.length_nil, Nat.zero_sub] at later
            rw [filled, Script.append_assoc, Script.append_assoc, List.length_nil, Nat.zero_sub]
            exact (text (String.ofList before)).seq ((text "?").seq later)
        | @cons m s list scripts own others =>
            have later := ih [] inner others
            have filled : Script.fill (before :: next :: more) (s :: scripts) =
                .text (String.ofList before) ++ s ++ Script.fill (next :: more) scripts := rfl
            rw [filled, Script.append_assoc, Script.append_assoc, List.length_cons,
              List.length_cons, Nat.add_sub_add_right]
            exact (text (String.ofList before)).seq (own.seq later)
      · obtain ⟨next, more, inner, whole⟩ := Script.slotTexts_cons slot rest
        rw [whole] at split
        obtain ⟨rfl, rfl⟩ := List.cons.inj split
        have grown : before ++ c :: next = before ++ [c] ++ next := by simp
        rw [if_neg slot, grown]
        exact ih (before ++ [c]) inner each

theorem template (format : String) (each : List.Forall₂ (Writes d) list scripts) :
    Writes d (Rendering.template format list) (Script.template format scripts) := by
  obtain ⟨first, others, split⟩ :=
    List.exists_cons_of_ne_nil (Script.slotTexts_ne_nil format.toList)
  rw [Script.template, split]
  exact fillSlots format [] split each

/-! ### Clauses -/

theorem ofMembers {α : Type} {render : α → Rendering} {script : α → Script} {nodes : List α}
    (each : ∀ x ∈ nodes, Writes d (render x) (script x)) :
    List.Forall₂ (Writes d) (nodes.map render) (nodes.map script) := by
  rw [List.forall₂_map_left_iff, List.forall₂_map_right_iff]
  exact List.forall₂_same.mpr each

theorem isEmpty_eq (each : List.Forall₂ (Writes d) list scripts) :
    list.isEmpty = scripts.isEmpty := by
  cases each <;> rfl

theorem group (op : Connective) (outermost : Bool) (each : List.Forall₂ (Writes d) list scripts) :
    Writes d (Rendering.group op outermost list) (.group op outermost scripts) := by
  cases each with
  | nil => exact nothing
  | cons first others =>
      cases others with
      | nil => exact first
      | cons second others =>
          have all := separated op.separator (.cons first (.cons second others))
          cases outermost with
          | true => exact all
          | false => exact parens all

theorem listClause (keyword : String) (each : List.Forall₂ (Writes d) list scripts) :
    Writes d (Rendering.listClause keyword list) (.listClause keyword scripts) := by
  rw [Rendering.listClause, isEmpty_eq each]
  exact onlyIf _ ((text keyword).seq (separated ", " each))

theorem joinsClause (each : List.Forall₂ (Writes d) list scripts) :
    Writes d (Rendering.joinsClause list) (.joinsClause scripts) := by
  rw [Rendering.joinsClause, isEmpty_eq each]
  exact onlyIf _ ((text " ").seq (separated " " each))

theorem conditions (keyword : String) (each : List.Forall₂ (Writes d) list scripts) :
    Writes d (Rendering.conditions keyword list) (.conditions keyword scripts) := by
  rw [Rendering.conditions, isEmpty_eq each]
  exact onlyIf _ ((text keyword).seq (group .and true each))

theorem withClause (ctes : List Cte) (each : List.Forall₂ (Writes d) list scripts) :
    Writes d (Rendering.withClause ctes list) (.withClause ctes scripts) := by
  rw [Script.withClause, Script.append_assoc, Script.append_assoc]
  exact onlyIf _ ((text "WITH ").seq ((onlyIf _ (text "RECURSIVE ")).seq
    ((separated ", " each).seq (text " "))))

theorem insertedRows (node : Node) (columns : List Field)
    (each : List.Forall₂ (Writes d) list scripts) :
    Writes d (Rendering.insertedRows node columns list)
      (if !scripts.isEmpty then .text " VALUES " ++ .separated ", " scripts
        else if !columns.isEmpty then .failure (.malformed node .columnsWithoutValues)
        else .text (if d == .mysql then " () VALUES ()" else " DEFAULT VALUES")) := by
  rw [Rendering.insertedRows, isEmpty_eq each]
  split
  · exact (text " VALUES ").seq (separated ", " each)
  · split
    · exact failure _
    · exact forDialect (text _)

theorem upsert (node : Node) (keyword : String) (each : List.Forall₂ (Writes d) list scripts) :
    Writes d (Rendering.upsert node keyword list)
      (.require (!scripts.isEmpty) (.malformed node .emptyUpsert) ++ .text keyword ++
        .separated ", " scripts) := by
  rw [Rendering.upsert, isEmpty_eq each, Script.append_assoc]
  exact (require _ _).seq ((text keyword).seq (separated ", " each))

end Lists

theorem asClause (asName : Option String) :
    Writes d (Rendering.asClause asName) (.asClause d asName) := by
  cases asName with
  | none => exact nothing
  | some name => exact (text " AS ").seq (ident name)

theorem tableName (t : Table) : Writes d (Rendering.tableName t) (.tableName d t) := by
  refine seq ?_ (ident t.name)
  cases t.schema with
  | none => exact nothing
  | some schema => exact (ident schema).seq (text ".")

theorem table (t : Table) : Writes d (Rendering.table t) (.table d t) :=
  (tableName t).seq (asClause t.asName)

theorem materialization (hint : Option Bool) :
    Writes d (Rendering.materialization hint) (.materialization d hint) := by
  cases hint with
  | none => exact nothing
  | some hint =>
      rw [Rendering.materialization]
      exact forDialect (m := _) (onlyIf _ (text _))

theorem checkWidth (node : Node) (columns : List String) (branch : CteBranch) (q : Query) :
    Writes d (Rendering.checkWidth node columns branch q) (.checkWidth node columns branch q) := by
  rw [Rendering.checkWidth, Script.checkWidth]
  cases q.width with
  | none => exact nothing
  | some width => exact require _ _

theorem recursiveBody (name : String) (columns : List String) (initial : Option Query)
    (step : Option RecursiveStep) (first : Writes d m s) (second : Writes d n t) :
    Writes d (Rendering.recursiveBody name columns initial step m n)
      (.recursiveBody name columns initial step s t) := by
  rcases initial with _ | i
  · exact failure _
  · rcases step with _ | ⟨kind, q⟩
    · exact failure _
    · rw [Script.recursiveBody, Script.append_assoc, Script.append_assoc, Script.append_assoc]
      exact (checkWidth _ _ _ _).seq ((checkWidth _ _ _ _).seq
        (first.seq ((text kind.separator).seq second)))

theorem direction (way : Option Direction) :
    Writes d (Rendering.direction way) (.direction way) := by
  rcases way with _ | _ | _
  · exact nothing
  · exact text " ASC"
  · exact text " DESC"

theorem nullPlace (place : Option NullPlace) :
    Writes d (Rendering.nullPlace place) (.nullPlace place) := by
  rcases place with _ | _ | _
  · exact nothing
  · exact text " NULLS FIRST"
  · exact text " NULLS LAST"

theorem integer (n : Int64) : Writes d (Rendering.integer n) (.integer n) := text _

theorem bounds (limit offset : Option Int64) :
    Writes d (Rendering.bounds limit offset) (.bounds d limit offset) := by
  rcases limit with _ | n <;> rcases offset with _ | m
  · exact nothing
  · refine seq (forDialect ?_) (integer m)
    cases d <;> exact text _
  · exact (text " LIMIT ").seq (integer n)
  · rw [Script.bounds, Script.append_assoc, Script.append_assoc]
    exact (text " LIMIT ").seq ((integer n).seq ((text " OFFSET ").seq (integer m)))

theorem checkReturning (node : Node) (returning : List Field) :
    Writes d (Rendering.checkReturning node returning) (.checkReturning d node returning) :=
  forDialect (require _ _)

theorem listedName (node : Node) (first : Bool) (shown : String) (name : Option String) :
    Writes d (Rendering.listedName node first shown name)
      (match name with
        | some name => .onlyIf (!first) (.text ", ") ++ .ident d name
        | none => .failure (.malformed node (.notColumn shown))) := by
  cases name with
  | some name => exact (onlyIf _ (text ", ")).seq (ident name)
  | none => exact failure _

theorem checkRows (node : Node) (fault : Option RowFault) :
    Writes d (Rendering.checkRows node fault)
      (match fault with
        | none => .empty
        | some fault => .failure (.malformed node (.rows fault))) := by
  cases fault with
  | none => exact nothing
  | some fault => exact failure _

/-! ### Whole texts -/

theorem build (own : Writes d m s) : m.build d = s.build d := by
  rw [Rendering.build, own _ rfl, Script.build]
  cases s.fault <;> rfl

theorem shown (name : String) (own : Writes .standard m s) : m.shown name = s.shown name := by
  rw [Rendering.shown, own _ rfl, Script.shown, Script.build]
  cases s.fault <;> rfl

end Writes

end Rendering

open Rendering (Writes) in
def NodeProperty.writes : NodeProperty where
  expr e := ∀ d bare, Writes d (e.render bare) (e.script d bare)
  field f := ∀ d bare, Writes d (f.render bare) (f.script d bare)
  predicate p := ∀ d bare place, Writes d (p.render bare place) (p.script d bare place)
  source x := ∀ d, Writes d x.render (x.script d)
  cte c := ∀ d, Writes d c.render (c.script d)
  join j := ∀ d, Writes d j.render (j.script d)
  assignment a := ∀ d targetBare valueBare,
    Writes d (a.render targetBare valueBare) (a.script d targetBare valueBare)
  select s := ∀ d, Writes d s.render (s.script d)
  insert i := ∀ d, Writes d i.render (i.script d)
  update u := ∀ d, Writes d u.render (u.script d)
  delete q := ∀ d, Writes d q.render (q.script d)

namespace Rendering.Writes

variable {d : Dialect}

section Parts

variable (bare : List String)

theorem query {q : Query} (own : NodeProperty.writes.query q) : Writes d q.render (q.script d) := by
  cases q with
  | select s => exact own d
  | insert i => exact own d
  | update u => exact own d
  | delete q => exact own d

theorem fields {list : List Field} (each : ∀ f ∈ list, NodeProperty.writes.field f) :
    List.Forall₂ (Writes d) (Field.renderings bare list) (Field.scripts d bare list) := by
  rw [Field.renderings_eq_map, Field.scripts_eq_map]
  exact ofMembers fun f member => each f member d bare

theorem outputs {list : List Field} (each : ∀ f ∈ list, NodeProperty.writes.field f) :
    List.Forall₂ (Writes d) (Field.renderOutputs bare list) (Field.outputs d bare list) := by
  rw [Field.renderOutputs_eq_map, Field.outputs_eq_map]
  refine ofMembers fun f member => ?_
  have own := each f member d bare
  rcases f with ⟨expr, asName, way, nulls⟩
  rw [Field.renderOutput]
  exact own.seq (asClause asName)

theorem label {f : Field} (own : NodeProperty.writes.field f) :
    f.labelBy ((f.render []).shown f.name) = f.labelOf (f.script .standard []) := by
  rw [Field.labelOf, shown f.name (own .standard [])]

theorem orderings {list : List Field} (each : ∀ f ∈ list, NodeProperty.writes.field f) :
    List.Forall₂ (Writes d) (Field.renderOrderings list) (Field.orderings d list) := by
  rw [Field.renderOrderings_eq_map, Field.orderings_eq_map]
  refine ofMembers fun f member => ?_
  have own := each f member
  have called := label own
  rcases f with ⟨expr, asName, way, nulls⟩
  rw [← called, Script.append_assoc, Field.renderOrdering]
  refine (own d []).seq ((direction way).seq (forDialect ?_))
  split
  · exact failure _
  · exact nullPlace nulls

theorem rows {list : List (List Field)}
    (each : ∀ row ∈ list, ∀ f ∈ row, NodeProperty.writes.field f) :
    List.Forall₂ (Writes d) (Field.renderRows bare list) (Field.rows d bare list) := by
  rw [Field.renderRows_eq_map, Field.rows_eq_map]
  refine ofMembers fun row member => parens (separated ", " ?_)
  exact ofMembers fun f cell => each row member f cell d bare

theorem columnNames (node : Node) (first : Bool) {list : List Field}
    (each : ∀ f ∈ list, NodeProperty.writes.field f) :
    Writes d (Field.renderNames node first list) (Field.columnNames d node first list) := by
  induction list generalizing first with
  | nil => exact nothing
  | cons f rest ih =>
      obtain ⟨own, others⟩ := List.forall_mem_cons.mp each
      rw [Field.renderNames, Field.columnNames, shown f.name (own .standard [])]
      exact (listedName node first _ f.expr.columnName?).seq (ih false others)

theorem predicates (place : Option Bool) {list : List Predicate}
    (each : ∀ p ∈ list, NodeProperty.writes.predicate p) :
    List.Forall₂ (Writes d) (Predicate.renderings bare place list)
      (Predicate.scripts d bare place list) := by
  rw [Predicate.renderings_eq_map, Predicate.scripts_eq_map]
  exact ofMembers fun p member => each p (List.mem_of_mem_filter member) d bare place

theorem joins {list : List Join} (each : ∀ j ∈ list, NodeProperty.writes.join j) :
    List.Forall₂ (Writes d) (Join.renderings list) (Join.scripts d list) := by
  rw [Join.renderings_eq_map, Join.scripts_eq_map]
  exact ofMembers fun j member => each j member d

theorem ctes {list : List Cte} (each : ∀ c ∈ list, NodeProperty.writes.cte c) :
    List.Forall₂ (Writes d) (Cte.renderings list) (Cte.scripts d list) := by
  rw [Cte.renderings_eq_map, Cte.scripts_eq_map]
  exact ofMembers fun c member => each c member d

theorem assignments (targetBare valueBare : List String) {list : List Assignment}
    (each : ∀ a ∈ list, NodeProperty.writes.assignment a) :
    List.Forall₂ (Writes d) (Assignment.renderings targetBare valueBare list)
      (Assignment.scripts d targetBare valueBare list) := by
  rw [Assignment.renderings_eq_map, Assignment.scripts_eq_map]
  exact ofMembers fun a member => each a member d targetBare valueBare

theorem source (keyword : String) {x : Option Source}
    (each : ∀ y ∈ x, NodeProperty.writes.source y) :
    Writes d (Source.renderClause keyword x) (Source.clause d keyword x) := by
  cases x with
  | none => exact nothing
  | some x => exact (text keyword).seq (each x rfl d)

theorem select {s : Option Select} (each : ∀ x ∈ s, NodeProperty.writes.select x) :
    Writes d (Select.renderClause s) (Select.clause d s) := by
  cases s with
  | none => exact nothing
  | some s => exact (text " ").seq (each s rfl d)

theorem upserts {action : ConflictAction}
    (each : ∀ a ∈ action.assignments, NodeProperty.writes.assignment a) :
    List.Forall₂ (Writes d) (action.renderings bare) (action.scripts d bare) := by
  cases action with
  | nothing => exact .nil
  | update list => exact assignments bare bare each

theorem conflict (table : Table) {c : Option Conflict}
    (target : ∀ x ∈ c, ∀ f ∈ x.target, NodeProperty.writes.field f)
    (set : ∀ x ∈ c, ∀ a ∈ x.action.assignments, NodeProperty.writes.assignment a) :
    Writes d (Conflict.renderClause table c) (Conflict.clause d table c) := by
  cases c with
  | none => exact nothing
  | some c =>
      obtain ⟨list, action⟩ := c
      have names := columnNames (d := d) (.insert table.name) true (target _ rfl)
      have updates := upserts (d := d) [table.qualifier] (set _ rfl)
      have listed : Writes d _ (.onlyIf (!list.isEmpty) _) :=
        onlyIf _ ((text " ").seq (parens names))
      rw [Conflict.renderClause, Conflict.clause]
      cases action with
      | nothing =>
          rw [Conflict.render, Conflict.script]
          refine forDialect ?_
          cases d.onConflict with
          | true =>
              rw [if_pos rfl, Script.append_assoc]
              exact (text " ON CONFLICT").seq (listed.seq (text " DO NOTHING"))
          | false => exact nothing
      | update assignments =>
          rw [Conflict.render, Conflict.script]
          refine forDialect ?_
          cases d.onConflict with
          | true =>
              rw [if_pos rfl, if_pos rfl, Script.append_assoc]
              exact (text " ON CONFLICT").seq
                (listed.seq ((require _ _).seq (upsert _ " DO UPDATE SET " updates)))
          | false => exact upsert _ " ON DUPLICATE KEY UPDATE " updates

theorem cte (name : String) (asName : Option String) (columns : List String) (hint : Option Bool)
    {body : CteBody} (own : Writes d (body.render name columns) (body.script d name columns)) :
    Writes d (Cte.render ⟨name, asName, columns, body, hint⟩)
      (Cte.script d ⟨name, asName, columns, body, hint⟩) := by
  have names := separated ", " (ofMembers fun name (_ : name ∈ columns) => ident (d := d) name)
  rw [Cte.script, Script.append_assoc, Script.append_assoc, Script.append_assoc]
  exact (ident name).seq ((onlyIf _ ((text " ").seq (parens names))).seq
    ((text " AS ").seq ((materialization hint).seq (parens own))))

end Parts

theorem hereditary : NodeProperty.Hereditary {} NodeProperty.writes where
  column table tableAlias name type _ d bare := by
    exact (onlyIf _ ((ident _).seq (text "."))).seq (ident name)
  proposed name _ d bare := by
    rw [Expr.render]
    refine forDialect ?_
    cases d with
    | mysql =>
        rw [Expr.script, Script.proposed, Script.append_assoc]
        exact (text "VALUES(").seq ((ident name).seq (text ")"))
    | sqlite | postgres => exact (text "EXCLUDED.").seq (ident name)
  value v _ d bare := value v
  shared name v _ d bare := shared name v
  template format operands _ each d bare := template format (fields bare each)
  scalar q _ own d bare := parens (query own)
  field f _ own d bare := by
    cases f with
    | mk expr asName way nulls => exact own d bare
  compare left op right _ l r d bare place := by
    rw [Predicate.script, Script.append_assoc]
    exact (l d bare).seq ((text _).seq (r d bare))
  isNull field negated _ f d bare place := (f d bare).seq (text _)
  inList field values negated _ f vs d bare place := by
    rw [Predicate.render, Predicate.script, label f]
    split
    · exact failure _
    · rw [Script.append_assoc, Script.append_assoc]
      exact (f d bare).seq ((text _).seq ((separated ", " (fields bare vs)).seq (text ")")))
  inQuery field q negated _ f own d bare place := by
    rw [Predicate.script, Script.append_assoc, Script.append_assoc]
    exact (f d bare).seq ((text _).seq ((query own).seq (text ")")))
  between field low high negated _ f l h d bare place := by
    rw [Predicate.script, Script.append_assoc, Script.append_assoc, Script.append_assoc]
    exact (f d bare).seq ((text _).seq ((l d bare).seq ((text _).seq (h d bare))))
  existsRow q negated _ own d bare place := by
    rw [Predicate.script, Script.append_assoc]
    exact (text _).seq ((query own).seq (text ")"))
  not inner _ own d bare place := by
    rw [Predicate.script, Script.append_assoc]
    exact onlyIf _ ((text "NOT (").seq ((own d bare none).seq (text ")")))
  group op members toplevel _ each d bare place := group op _ (predicates bare _ each)
  holds field _ f d bare place := f d bare
  table t _ d := table t
  subquery q name _ own d := by
    rw [Source.script, Script.append_assoc]
    exact (parens (query own)).seq ((text " AS ").seq (ident name))
  cteSource name asName _ d := (ident name).seq (asClause asName)
  plainCte name asName columns q hint _ own d := by
    refine cte name asName columns hint ?_
    cases q with
    | none => exact text "NULL"
    | some q => exact (checkWidth _ columns .only q).seq (query (own q rfl))
  recursiveCte name asName columns initial step hint _ first second d := by
    refine cte name asName columns hint (recursiveBody name columns initial step ?_ ?_)
    · cases initial with
      | none => exact nothing
      | some q => exact query (first q rfl)
    · rcases step with _ | ⟨kind, q⟩
      · exact nothing
      · exact query (second _ rfl)
  join j _ own each d := by
    rcases j with ⟨kind, source, conditions'⟩
    rw [Join.script, Script.append_assoc]
    exact (text _).seq ((own d).seq (conditions " ON " (predicates [] _ each)))
  assignment a _ target value d targetBare valueBare := by
    rcases a with ⟨_, _⟩
    rw [Assignment.script, Script.append_assoc]
    exact (target d targetBare).seq ((text " = ").seq (value d valueBare))
  select s _ parts d := by
    rcases s with
      ⟨withs, distinct, list, from?, joined, wheres, grouping, having, ordering, limit, offset⟩
    rw [Select.render, Select.script]
    simp only [Script.append_assoc]
    exact (require _ _).seq ((require _ _).seq ((withClause withs (ctes parts.ctes)).seq
      ((text _).seq ((separated ", " (outputs [] parts.fields)).seq
      ((source " FROM " parts.source).seq ((require _ _).seq ((joinsClause (joins parts.joins)).seq
      ((conditions " WHERE " (predicates [] _ parts.conditions)).seq
      ((listClause " GROUP BY " (fields [] parts.grouping)).seq
      ((conditions " HAVING " (predicates [] _ parts.having)).seq
      ((listClause " ORDER BY " (orderings parts.ordering)).seq (bounds limit offset))))))))))))
  insert i _ parts d := by
    rcases i with ⟨withs, t, columns, list, from?, conflict?, returning, fault⟩
    rw [Insert.render, Insert.script.eq_def]
    simp only [Script.append_assoc]
    refine (checkRows _ fault).seq ((checkReturning _ returning).seq
      ((withClause withs (ctes parts.ctes)).seq ((forDialect (text _)).seq ((forDialect ?_).seq
      ((onlyIf _ ((text " ").seq (parens (columnNames _ true parts.columns)))).seq (Writes.seq ?_
      ((conflict t parts.target parts.upsert).seq
      (listClause " RETURNING " (outputs _ parts.returning)))))))))
    · split
      · exact tableName t
      · exact table t
    · split
      · exact select parts.source
      · have given := insertedRows (d := d) (.insert t.name) columns (rows [t.qualifier] parts.rows)
        have same : (Field.rows d [t.qualifier] list).isEmpty = list.isEmpty := by
          cases list <;> rfl
        rwa [same] at given
  update u _ parts d := by
    rcases u with ⟨withs, t, list, from?, joined, wheres, returning⟩
    rw [Update.render, Update.script]
    simp only [Script.append_assoc]
    refine (require _ _).seq ((checkReturning _ returning).seq
      ((withClause withs (ctes parts.ctes)).seq ((text "UPDATE ").seq ((table t).seq
      ((forDialect ?_).seq ((conditions " WHERE " (predicates [] _ parts.conditions)).seq
      (listClause " RETURNING " (outputs _ parts.returning))))))))
    split
    · exact (source ", " parts.source).seq ((joinsClause (joins parts.joins)).seq
        ((text " SET ").seq (separated ", " (assignments _ _ parts.assignments))))
    · exact (text " SET ").seq ((separated ", " (assignments _ _ parts.assignments)).seq
        ((source " FROM " parts.source).seq ((require _ _).seq (joinsClause (joins parts.joins)))))
  delete q _ parts d := by
    rcases q with ⟨withs, t, wheres, returning, everyRow⟩
    rw [Delete.render, Delete.script]
    simp only [Script.append_assoc]
    exact (require _ _).seq ((checkReturning _ returning).seq
      ((withClause withs (ctes parts.ctes)).seq ((text "DELETE FROM ").seq ((table t).seq
      ((conditions " WHERE " (predicates [] _ parts.conditions)).seq
      (listClause " RETURNING " (outputs _ parts.returning)))))))

end Rendering.Writes

theorem Field.render_writes (f : Field) : NodeProperty.writes.field f :=
  have always : NodeProperty.Always {} := {}
  Rendering.Writes.hereditary.of_field f (always.each_field f)

/-- What is appended to a renderer is a script. -/
theorem Fragment.render_writes (t : Fragment) (d : Dialect) :
    Rendering.Writes d t.render (t.script d) := by
  have always : NodeProperty.Always {} := {}
  have nodes := Rendering.Writes.hereditary
  cases t with
  | field f bare => exact f.render_writes d bare
  | predicate p bare place => exact nodes.of_predicate p (always.each_predicate p) d bare place
  | join j => exact nodes.of_join j (always.each_join j) d
  | query q => exact Rendering.Writes.query (nodes.of_query q (always.each_query q))

theorem Renderer.append_eq (r : Renderer) (t : Fragment) :
    r.append t = (r.write (t.script r.dialect), (t.script r.dialect).fault) :=
  t.render_writes r.dialect r rfl

theorem Renderer.append_field (r : Renderer) (f : Field) (bare : List String) :
    r.append (.field f bare) =
      (r.write (f.script r.dialect bare), (f.script r.dialect bare).fault) :=
  r.append_eq (.field f bare)

namespace Select

def questionScript (d : Dialect) (s : Select) : Script :=
  .text "SELECT EXISTS (" ++ s.asked.script d ++ .text ")"

theorem question_build (d : Dialect) (s : Select) :
    s.question.build d = (s.questionScript d).build d := by
  have inner : Rendering.Writes d s.asked.render (s.asked.script d) :=
    (Fragment.query (.select s.asked)).render_writes d
  rw [questionScript, Script.append_assoc]
  exact ((Rendering.Writes.text _).seq (inner.seq (.text ")"))).build

end Select

namespace Query

theorem build_eq_script (d : Dialect) (q : Query) :
    q.build d = ((q.script d).build d).mapError Fault.toError := by
  have own : Rendering.Writes d q.render (q.script d) := (Fragment.query q).render_writes d
  rw [build, own.build]

theorem build_eq_ok {d : Dialect} {q : Query} {b : Built} :
    q.build d = .ok b ↔
      (q.script d).fault = none ∧ ((Renderer.new d).write (q.script d)).finish = b := by
  rw [build_eq_script, ← Script.build_eq_ok]
  cases (q.script d).build d with
  | error fault => constructor <;> exact fun same => nomatch same
  | ok other =>
      constructor
      · intro same
        exact congrArg _ (Except.ok.inj same)
      · intro same
        exact congrArg _ (Except.ok.inj same)

theorem build_eq_error {d : Dialect} {q : Query} {e : Error} :
    q.build d = .error e ↔ ∃ fault, (q.script d).fault = some fault ∧ fault.toError = e := by
  simp only [build_eq_script, ← Script.build_eq_error (d := d)]
  cases (q.script d).build d with
  | error fault =>
      constructor
      · intro same
        exact ⟨fault, rfl, Except.error.inj same⟩
      · rintro ⟨other, same, rfl⟩
        exact congrArg _ (congrArg _ (Except.error.inj same))
  | ok b =>
      constructor
      · exact fun same => nomatch same
      · rintro ⟨_, same, _⟩
        exact nomatch same

end Query

end SqlTree
