import SqlTree.Proofs.Condition.Composition
import SqlTree.Proofs.Tree.Rendering

/-!
The clauses of conditions in a statement. Whether a clause is written hangs on the emptiness of its
tree alone; so if that tells what the tree writes, as it does unless a leaf is blank, no keyword and
no connective is written without its operands.
-/

namespace SqlTree

/-! ### Statements in sections -/

namespace Script

@[simp] theorem concat_append (a b : List Script) : concat (a ++ b) = concat a ++ concat b := by
  induction a with
  | nil => rfl
  | cons s rest ih => rw [List.cons_append, concat, concat, ih, append_assoc]

theorem joinsClause_eq (joins : List Script) :
    joinsClause joins = concat (joins.map (text " " ++ ·)) := by
  induction joins with
  | nil => rfl
  | cons first rest ih =>
      cases rest with
      | nil =>
          rw [List.map_singleton, concat, concat, append_empty]
          rfl
      | cons second rest =>
          have front : joinsClause (first :: second :: rest) =
              text " " ++ (first ++ text " " ++ separated " " (second :: rest)) := rfl
          have behind : joinsClause (second :: rest) = text " " ++ separated " " (second :: rest) :=
            rfl
          rw [List.map_cons, concat, ← ih, front, behind]
          simp only [append_assoc]

end Script

/-- A section of a statement: a clause of conditions, or anything else. -/
inductive Section where
  | plain (s : Script)
  | clause (keyword : String) (members : List Predicate)

namespace Section

def script (d : Dialect) : Section → Script
  | plain s => s
  | clause keyword members =>
      .conditions keyword
        (Predicate.scripts d [] (Predicate.memberPlace true members) members)

def scripts (d : Dialect) (list : List Section) : Script := .concat (list.map (script d))

def leaves : Section → List Predicate
  | plain _ => []
  | clause _ members => Predicate.leavesOf members

def Worded (list : List Section) : Prop := ∀ x ∈ list, ∀ leaf ∈ x.leaves, leaf.blank = false

instance (list : List Section) : Decidable (Worded list) :=
  inferInstanceAs (Decidable (∀ x ∈ list, ∀ leaf ∈ x.leaves, leaf.blank = false))

end Section

section Sections

variable (d : Dialect)

def Join.sections (j : Join) : List Section :=
  [.plain (.text (j.kind.keyword ++ " ") ++ j.source.script d), .clause " ON " j.conditions]

def Join.sectionsEach (joins : List Join) : List Section :=
  joins.flatMap fun j => .plain (.text " ") :: j.sections d

def Select.sections (s : Select) : List Section :=
  let node := Node.select (.of .select (s.source.map Source.name))
  .plain (.require (!s.fields.isEmpty) (.malformed node .noFields) ++
    .require (s.limit.all (0 ≤ ·) && s.offset.all (0 ≤ ·)) (.malformed node .negativeBound) ++
    .withClause s.ctes (Cte.scripts d s.ctes) ++
    .text (if s.distinct then "SELECT DISTINCT " else "SELECT ") ++
    .separated ", " (Field.outputs d [] s.fields) ++ Source.clause d " FROM " s.source ++
    .require (s.source.isSome || s.joins.isEmpty) (.malformed node .joinsWithoutSource)) ::
  Join.sectionsEach d s.joins ++
  [.clause " WHERE " s.conditions,
    .plain (.listClause " GROUP BY " (Field.scripts d [] s.grouping)),
    .clause " HAVING " s.having,
    .plain (.listClause " ORDER BY " (Field.orderings d s.ordering) ++
      .bounds d s.limit s.offset)]

def Update.sections (u : Update) : List Section :=
  let node := Node.update u.table.name
  let own := [u.table.qualifier]
  let shared := if u.source.isSome || !u.joins.isEmpty then [] else own
  .plain (.require (!u.assignments.isEmpty) (.malformed node .noAssignments) ++
    .checkReturning d node u.returning ++ .withClause u.ctes (Cte.scripts d u.ctes) ++
    .text "UPDATE " ++ .table d u.table) ::
  (if d == .mysql then
    .plain (Source.clause d ", " u.source) :: Join.sectionsEach d u.joins ++
    [.plain (.text " SET " ++
      .separated ", " (Assignment.scripts d shared shared u.assignments))]
  else
    .plain (.text " SET " ++ .separated ", " (Assignment.scripts d own shared u.assignments) ++
      Source.clause d " FROM " u.source ++
      .require (u.source.isSome || u.joins.isEmpty) (.malformed node .joinsWithoutSource)) ::
    Join.sectionsEach d u.joins) ++
  [.clause " WHERE " u.conditions,
    .plain (.listClause " RETURNING " (Field.outputs d shared u.returning))]

def Delete.opening (q : Delete) : Script :=
  .require (q.everyRow || !Predicate.allEmpty q.conditions)
    (.malformed (.delete q.table.name) .noConditions) ++
  .checkReturning d (.delete q.table.name) q.returning ++
  .withClause q.ctes (Cte.scripts d q.ctes) ++ .text "DELETE FROM " ++ .table d q.table

def Delete.closing (q : Delete) : Script :=
  .listClause " RETURNING " (Field.outputs d [q.table.qualifier] q.returning)

def Delete.sections (q : Delete) : List Section :=
  [.plain (q.opening d), .clause " WHERE " q.conditions, .plain (q.closing d)]

theorem Join.script_eq (j : Join) : j.script d = Section.scripts d (j.sections d) := by
  rcases j with ⟨kind, source, conditions⟩
  simp only [Join.script, Section.scripts, Join.sections, List.map_cons, List.map_nil,
    Script.concat, Script.append_empty]
  rfl

theorem Join.scripts_eq (joins : List Join) :
    .joinsClause (Join.scripts d joins) = Section.scripts d (Join.sectionsEach d joins) := by
  rw [Script.joinsClause_eq, Join.scripts_eq_map, Section.scripts, Join.sectionsEach]
  induction joins with
  | nil => rfl
  | cons j rest ih =>
      rw [List.map_cons, List.map_cons, Script.concat, ih, Join.script_eq, List.flatMap_cons,
        List.map_append, Script.concat_append]
      rfl

theorem Select.script_eq (s : Select) : s.script d = Section.scripts d (s.sections d) := by
  rcases s with ⟨ctes, distinct, fields, source, joins, conditions, grouping, having, ordering,
    limit, offset⟩
  simp only [Select.script, Join.scripts_eq, Section.scripts, Select.sections, List.map_cons,
    List.map_append, List.map_nil, List.cons_append, Script.concat, Script.concat_append,
    Script.append_empty, Section.script, Script.append_assoc]

theorem Update.script_eq (u : Update) : u.script d = Section.scripts d (u.sections d) := by
  rcases u with ⟨ctes, table, assignments, source, joins, conditions, returning⟩
  rw [Update.script, Join.scripts_eq, Update.sections]
  cases d == .mysql <;>
    simp only [Section.scripts, List.map_cons, List.map_append, List.map_nil, List.cons_append,
      Script.concat, Script.concat_append, Script.append_empty, Section.script,
      Script.append_assoc, if_true, if_false, Bool.false_eq_true]

theorem Delete.script_eq (q : Delete) : q.script d = Section.scripts d (q.sections d) := by
  rcases q with ⟨ctes, table, conditions, returning, everyRow⟩
  simp only [Delete.script, Section.scripts, Delete.sections, Delete.opening, Delete.closing,
    List.map_cons, List.map_nil, Script.concat, Script.append_empty, Section.script,
    Script.append_assoc]

end Sections

/-! ### What the sections write -/

namespace Section

open Condition Predicate

/-- The text of sections, one behind the other. A clause without a leaf is left out; else its
keyword is written and behind it what its leaves are put together to, none of them empty. -/
inductive Writes (d : Dialect) : Renderer → List Section → List Char → Prop where
  | nil (r : Renderer) : Writes d r [] []
  | plain {r : Renderer} {s : Script} {rest : List Section} {text : List Char}
      (behind : Writes d (r.write s) rest text) :
      Writes d r (.plain s :: rest) (r.written s ++ text)
  | absent {r : Renderer} {keyword : String} {members : List Predicate} {rest : List Section}
      {text : List Char} (none : leavesOf members = []) (behind : Writes d r rest text) :
      Writes d r (.clause keyword members :: rest) text
  | present {r : Renderer} {keyword : String} {members : List Predicate} {rest : List Section}
      {body text : List Char} (some : leavesOf members ≠ [])
      (filled : Filled (r.writtenEach ((leavesOf members).map (·.script d [] Option.none))) body)
      (behind : Writes d (r.write (script d (.clause keyword members))) rest text) :
      Writes d r (.clause keyword members :: rest) (keyword.toList ++ (body ++ text))

theorem writes {d : Dialect} {list : List Section} (ok : (scripts d list).fault = none)
    (worded : Worded list) (r : Renderer) :
    Writes d r list (r.written (scripts d list)) := by
  induction list generalizing r with
  | nil => exact .nil r
  | cons x rest ih =>
      obtain ⟨own, others⟩ := List.forall_mem_cons.mp worded
      have whole : scripts d (x :: rest) = x.script d ++ scripts d rest := rfl
      rw [whole] at ok ⊢
      obtain ⟨first, behind⟩ := Script.append_isOk ok
      have later := ih behind others (r.write (x.script d))
      rw [r.written_append first]
      cases x with
      | plain s => exact .plain later
      | clause keyword members =>
          by_cases none : leavesOf members = []
          · have left : script d (.clause keyword members) = .empty :=
              clause_eq_empty keyword none
            rw [left] at later ⊢
            exact .absent none later
          · obtain ⟨inside, text⟩ := written_clause keyword none first r
            have filled := Predicate.filled (p := .group .and members true) none inside own r
            have body : r.written (script d (.clause keyword members)) = keyword.toList ++
                r.written ((Predicate.group .and members true).script d [] .none) := text
            rw [body, List.append_assoc]
            exact .present none filled later

end Section

/-- A leaf writes nothing exactly if it is blank. For trees without a blank leaf, in any place,
emptiness tells exactly whether a tree writes nothing, and if it writes anything, every connective
and negation has its operands. So in every SELECT, UPDATE, DELETE and join a keyword of conditions
is written only in front of some. -/
theorem conditions_never_dangle (d : Dialect) (r : Renderer) :
    (∀ (leaf : Predicate) (bare : List String), leaf.isLeaf = true →
      (leaf.script d bare none).fault = none →
        (r.written (leaf.script d bare none) = [] ↔ leaf.blank = true)) ∧
    (∀ (p : Predicate) (bare : List String) (place : Option Bool),
      (p.script d bare place).fault = none → (∀ leaf ∈ p.leaves, leaf.blank = false) →
        (p.isEmpty = true ↔ r.written (p.script d bare place) = []) ∧
        (p.isEmpty = false → Condition.Filled
          (r.writtenEach (p.leaves.map (·.script d bare none)))
          (r.written (p.script d bare place)))) ∧
    (∀ s : Select, (s.script d).fault = none → Section.Worded (s.sections d) →
      Section.Writes d r (s.sections d) (r.written (s.script d))) ∧
    (∀ u : Update, (u.script d).fault = none → Section.Worded (u.sections d) →
      Section.Writes d r (u.sections d) (r.written (u.script d))) ∧
    (∀ q : Delete, (q.script d).fault = none → Section.Worded (q.sections d) →
      Section.Writes d r (q.sections d) (r.written (q.script d))) ∧
    ∀ j : Join, (j.script d).fault = none → Section.Worded (j.sections d) →
      Section.Writes d r (j.sections d) (r.written (j.script d)) := by
  refine ⟨fun leaf bare simple ok => ?_, fun p bare place ok worded => ⟨?_, fun some => ?_⟩,
    fun s ok worded => ?_, fun u ok worded => ?_, fun q ok worded => ?_, fun j ok worded => ?_⟩
  · exact Predicate.written_eq_nil_iff_of_isLeaf simple ok r
  · exact Predicate.isEmpty_iff_written_eq_nil ok worded r
  · have leafy : p.leaves ≠ [] := by simpa [Predicate.isEmpty_eq] using some
    exact Predicate.filled leafy ok worded r
  · rw [s.script_eq] at ok ⊢
    exact Section.writes ok worded r
  · rw [u.script_eq] at ok ⊢
    exact Section.writes ok worded r
  · rw [q.script_eq] at ok ⊢
    exact Section.writes ok worded r
  · rw [j.script_eq] at ok ⊢
    exact Section.writes ok worded r

def walkedCats : Select :=
  (Select.ofFields [.bare "id"]).calls
    [.source (.table (.named "cat")),
      .join ⟨.left, .table (.named "dog"), [.compare (.bare "cat_id") .eq (.bare "id")]⟩,
      .join ⟨.inner, .table (.named "walk"), [.not (.group .or [] false)]⟩,
      .conditions [.group .and [.not (.group .or [] true)] false,
        .not (.group .or [.compare (.bare "id") .eq (.value (.int 1)), .group .and [] false,
          .holds (.raw "sleepy")] true)],
      .having [.group .or [.group .and [] false] false]]

theorem conditions_never_dangle_walked :
    let sql := "SELECT id FROM cat LEFT JOIN dog ON cat_id = id JOIN walk" ++
      " WHERE NOT (id = $1 OR sleepy)"
    (walkedCats.script .postgres).fault = none ∧
      Section.Worded (walkedCats.sections .postgres) ∧
      Section.Writes .postgres (Renderer.new .postgres) (walkedCats.sections .postgres)
        sql.toList := by
  intro sql
  have ok : (walkedCats.script .postgres).fault = none := by decide +kernel
  have worded : Section.Worded (walkedCats.sections .postgres) := by decide +kernel
  have text : (Renderer.new .postgres).written (walkedCats.script .postgres) = sql.toList := by
    decide +kernel
  obtain ⟨-, -, selects, -⟩ := conditions_never_dangle .postgres (Renderer.new .postgres)
  have written := selects walkedCats ok worded
  rw [text] at written
  exact ⟨ok, worded, written⟩

/-- Raw text that is empty counts as text, but nothing is written for it: the keyword, a negation
or a connective is left without an operand. -/
theorem blank_leaf_dangles :
    let blank : Predicate := .holds (.raw "")
    let cats (list : List Predicate) : Query :=
      .select ((Select.ofFields [.bare "id"]).calls
        [.source (.table (.named "cat")), .conditions list])
    blank.isEmpty = false ∧ (blank.script .sqlite [] none).fault = none ∧
      (Renderer.new .sqlite).written (blank.script .sqlite [] none) = [] ∧
      (cats [blank]).build .sqlite = .ok ⟨"SELECT id FROM cat WHERE ", []⟩ ∧
      (cats [.not blank]).build .sqlite = .ok ⟨"SELECT id FROM cat WHERE NOT ()", []⟩ ∧
      (cats [.holds (.raw "sleepy"), blank]).build .sqlite =
        .ok ⟨"SELECT id FROM cat WHERE sleepy AND ", []⟩ := by
  intro blank cats
  refine ⟨rfl, ?_, ?_, ?_, ?_, ?_⟩ <;> cbv

end SqlTree
