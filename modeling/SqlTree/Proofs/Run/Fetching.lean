import SqlTree.Proofs.Steps
import SqlTree.Run.Fetch

/-!
What a fetch does with its mapper and its database. Both are watched by keeping a record of their
calls beside their own states; a fetch then leaves the rows that the mapper was called on and the
calls that reached the backend, in order.
-/

namespace SqlTree

/-! ### Records of calls -/

inductive Backend.Call where
  | query (b : Built)
  | execute (b : Built)
  | generatedId (b : Built)

def recording {ω κ α : Type} (call : κ) (action : StateM ω α) : StateM (ω × List κ) α :=
  fun (state, calls) =>
    let (result, next) := action state
    (result, next, calls ++ [call])

section Recorded

variable {ω σ α : Type}

def Backend.recorded (backend : Backend ω) : Backend (ω × List Backend.Call) where
  dialect := backend.dialect
  query b := recording (.query b) (backend.query b)
  execute b := recording (.execute b) (backend.execute b)
  generatedId b := recording (.generatedId b) (backend.generatedId b)

def Database.recorded (db : Database ω) : Database (ω × List Backend.Call) :=
  ⟨db.backend.recorded, db.observer⟩

def Session.recorded (s : Session ω) (calls : List Backend.Call) :
    Session (ω × List Backend.Call) :=
  ⟨(s.world, calls), s.events⟩

def Mapper.recorded (mapper : Mapper σ α) : Mapper (σ × List Cursor) α :=
  fun (row, own, rows) =>
    let (result, left, next) := mapper.run (row, own)
    (result, left, next, rows ++ [row])

/-- Beside the record the two actions do the same, and the first adds these calls to it. -/
def Session.Records (calls : List Backend.Call)
    (watched : StateM (Session (ω × List Backend.Call)) α) (plain : StateM (Session ω) α) : Prop :=
  ∀ session before, watched (Session.recorded session before) =
    ((plain session).1, (plain session).2.recorded (before ++ calls))

namespace Session.Records

theorem pure (a : α) : Records (ω := ω) [] (Pure.pure a) (Pure.pure a) := by
  intro session before
  rw [List.append_nil]
  rfl

theorem send (call : Backend.Call) (action : StateM ω (Reply α)) :
    Records [call] (Session.send (recording call action)) (Session.send action) := by
  intro session before
  rfl

theorem followed {β : Type} {calls : List Backend.Call}
    {watched : StateM (Session (ω × List Backend.Call)) α} {plain : StateM (Session ω) α}
    {watchedNext : α → StateM (Session (ω × List Backend.Call)) β}
    {next : α → StateM (Session ω) β} (first : Records calls watched plain)
    (second : ∀ a, Records [] (watchedNext a) (next a)) :
    Records calls (watched >>= watchedNext) (plain >>= next) := by
  intro session before
  have later := second (plain session).1 (plain session).2 (before ++ calls)
  rw [List.append_nil] at later
  calc (watched >>= watchedNext) (session.recorded before)
      = watchedNext (watched (session.recorded before)).1
          (watched (session.recorded before)).2 := rfl
    _ = watchedNext (plain session).1 ((plain session).2.recorded (before ++ calls)) := by
        rw [first]
    _ = _ := later

theorem after_emit {e : Event} {calls : List Backend.Call}
    {watched : StateM (Session (ω × List Backend.Call)) α} {plain : StateM (Session ω) α}
    (same : Records calls watched plain) :
    Records calls (Session.emit e >>= fun _ => watched) (Session.emit e >>= fun _ => plain) :=
  fun session before => same { session with events := session.events ++ [e] } before

end Session.Records

theorem Observer.watch_recorded (o : Observer) (d : Dialect) (b : Built) (call : Backend.Call)
    (action : StateM ω (Reply α)) :
    Session.Records [call] (o.watch d b (recording call action)) (o.watch d b action) := by
  apply Session.Records.after_emit
  apply (Session.Records.send call action).followed
  intro reply
  dsimp only
  cases o.isSlow (o.limited reply) with
  | none =>
      cases (o.limited reply).result with
      | ok a => exact Session.Records.pure _
      | error e => exact (Session.Records.pure _).after_emit
  | some limit =>
      apply Session.Records.after_emit
      cases (o.limited reply).result with
      | ok a => exact Session.Records.pure _
      | error e => exact (Session.Records.pure _).after_emit

theorem Database.run_recorded (db : Database ω) (b : Built) (call : Backend.Call)
    (action : StateM ω (Reply α)) :
    Session.Records [call] (db.recorded.run b (recording call action)) (db.run b action) := by
  rcases db with ⟨backend, _ | o⟩
  · apply (Session.Records.send call action).followed
    intro reply
    exact Session.Records.pure _
  · exact o.watch_recorded backend.dialect b call action

theorem Issue.query_recorded (db : Database ω) (id : StatementId) (b : Built) :
    Session.Records [.query b] (Issue.query db.recorded id b) (Issue.query db id b) := by
  apply Session.Records.after_emit
  apply (db.run_recorded b (.query b) (db.backend.query b)).followed
  intro result
  exact Session.Records.pure _

end Recorded

/-! ### How fetches end -/

/-- How a fetch ends: its result, the states it leaves, the rows that its mapper was called on and
the calls that reached its backend. -/
structure Fetched (ω σ α : Type) where
  result : Except Error α
  session : Session ω
  own : σ
  rows : List Cursor
  calls : List Backend.Call

inductive FetchMode : Type → Type → Type 1 where
  | each : FetchMode Unit Nat
  | all {α : Type} : FetchMode α (List α)
  | one {α : Type} : FetchMode α α
  | optional {α : Type} : FetchMode α (Option α)

namespace FetchMode

variable {ω σ α β : Type}

def fetch : FetchMode α β → Database ω → Query → Mapper σ α → Fetching ω σ β
  | each => Fetching.each
  | all => Fetching.all
  | one => Fetching.one
  | optional => Fetching.optional

def mapped : FetchMode α β → List Record → List Record
  | each, records => records
  | all, records => records
  | one, records => records.take 1
  | optional, records => records.take 1

def present (id : StatementId) : Option α → Except Error α
  | some output => .ok output
  | none => .error (.notFound (id.text ++ " returned no rows"))

def answer (id : StatementId) : FetchMode α β → List α → Except Error β
  | each, outputs => .ok outputs.length
  | all, outputs => .ok outputs
  | one, outputs => present id outputs.head?
  | optional, outputs => .ok outputs.head?

end FetchMode

section Relations

variable {ω σ α β : Type}

/-- Where the columns come from: those given, or else those that the mapper reads when it is called
once in advance. Ends in an error, or in the statement to run, which has these columns and is the
one given in all else. -/
inductive Registers (q : Query) (mapper : Mapper σ α) (own : σ) :
    Except Error Query → σ → List Cursor → Prop
  | given (columns : q.projection ≠ []) : Registers q mapper own (.ok q) own []
  | failed {e : Error} {left : Cursor} {next : σ} (none : q.projection = [])
      (call : mapper.run (.register, own) = (.error e, left, next)) :
      Registers q mapper own (.error e) next [.register]
  | nothing {a : α} {left : Cursor} {next : σ} (none : q.projection = [])
      (call : mapper.run (.register, own) = (.ok a, left, next)) (unread : left.registered = []) :
      Registers q mapper own
        (.error (.render q.id.text "no fields to project and the row mapper read none")) next
        [.register]
  | registered {a : α} {left : Cursor} {next : σ} (none : q.projection = [])
      (call : mapper.run (.register, own) = (.ok a, left, next)) (read : left.registered ≠ [])
      (columns : (q.withProjection left.registered).projection = left.registered)
      (others : (q.withProjection left.registered).withProjection q.projection = q) :
      Registers q mapper own (.ok (q.withProjection left.registered)) next [.register]

namespace Registers

variable {q : Query} {mapper : Mapper σ α} {own next : σ} {result : Except Error Query}
  {first : List Cursor}

theorem id_eq {full : Query} (registers : Registers q mapper own (.ok full) next first) :
    full.id = q.id := by
  cases registers with
  | given => rfl
  | registered => cases q <;> rfl

end Registers

namespace Fetches

variable {db : Database ω} {q : Query} {chosen : List Record → List Record} {mapper : Mapper σ α}
  {session : Session ω} {own : σ} {f : Fetched ω σ (List α)}

end Fetches

end Relations

/-! ### Running fetches -/

section Running

variable {ω σ α β : Type}

/-- The fetch ends so, and if its mapper and its backend are watched, these are the calls that they
record. -/
structure Fetching.Ends (plain : Fetching ω σ α)
    (watched : Fetching (ω × List Backend.Call) (σ × List Cursor) α) (session : Session ω) (own : σ)
    (f : Fetched ω σ α) : Prop where
  run : plain.run (session, own) = (f.result, f.session, f.own)
  records : ∀ calls rows, watched.run (session.recorded calls, own, rows) =
    (f.result, f.session.recorded (calls ++ f.calls), f.own, rows ++ f.rows)

namespace Fetching.Ends

variable {plain : Fetching ω σ α}
  {watched : Fetching (ω × List Backend.Call) (σ × List Cursor) α} {session middle : Session ω}
  {own next : σ} {calls : List Backend.Call} {rows : List Cursor}

theorem lifted {x result : Except Error α} (same : x = result) (session : Session ω) (own : σ) :
    Ends (liftM x) (liftM x) session own ⟨result, session, own, [], []⟩ where
  run := by
    subst same
    cases x <;> rfl
  records := by
    subst same
    intro calls rows
    rw [List.append_nil, List.append_nil]
    cases x <;> rfl

theorem stop {e : Error} {f : α → Fetching ω σ β}
    {g : α → Fetching (ω × List Backend.Call) (σ × List Cursor) β}
    (first : Ends plain watched session own ⟨.error e, middle, next, rows, calls⟩) :
    Ends (plain >>= f) (watched >>= g) session own ⟨.error e, middle, next, rows, calls⟩ where
  run := Steps.bind_error first.run
  records := fun before seen => Steps.bind_error (first.records before seen)

theorem bind {a : α} {f : α → Fetching ω σ β}
    {g : α → Fetching (ω × List Backend.Call) (σ × List Cursor) β}
    (first : Ends plain watched session own ⟨.ok a, middle, next, rows, calls⟩)
    (last : Fetched ω σ β) (second : Ends (f a) (g a) middle next last) :
    Ends (plain >>= f) (watched >>= g) session own
      ⟨last.result, last.session, last.own, rows ++ last.rows, calls ++ last.calls⟩ where
  run := by
    rw [Steps.bind_ok first.run]
    exact second.run
  records := by
    intro before seen
    rw [Steps.bind_ok (first.records before seen), ← List.append_assoc,
      ← List.append_assoc]
    exact second.records (before ++ calls) (seen ++ rows)

theorem call (mapper : Mapper σ α) (row : Cursor) (session : Session ω) (own : σ) :
    Ends (Fetching.call mapper row) (Fetching.call mapper.recorded row) session own
      ⟨(mapper.run (row, own)).1.map (·, (mapper.run (row, own)).2.1), session,
        (mapper.run (row, own)).2.2, [row], []⟩ where
  run := rfl
  records := by
    intro before seen
    rw [List.append_nil]
    rfl

theorem inSession {action : StateM (Session ω) (Except Error α)}
    {recorded : StateM (Session (ω × List Backend.Call)) (Except Error α)}
    (same : Session.Records calls recorded action) (session : Session ω) (own : σ) :
    Ends (Fetching.inSession action) (Fetching.inSession recorded) session own
      ⟨(action session).1, (action session).2, own, [], calls⟩ where
  run := rfl
  records := by
    intro before seen
    rw [List.append_nil]
    show ((recorded (session.recorded before)).1, (recorded (session.recorded before)).2,
      own, seen) = _
    rw [same]

theorem answered {f : Fetched ω σ α} {make : α → Except Error β} {rest : α → Fetching ω σ β}
    {watchedRest : α → Fetching (ω × List Backend.Call) (σ × List Cursor) β}
    (first : Ends plain watched session own f) (same : ∀ a, rest a = liftM (make a))
    (watchedSame : ∀ a, watchedRest a = liftM (make a)) :
    Ends (plain >>= rest) (watched >>= watchedRest) session own
      ⟨f.result.bind make, f.session, f.own, f.rows, f.calls⟩ := by
  rcases f with ⟨e | a, middle, next, rows, calls⟩
  · exact first.stop
  · have second : Ends (rest a) (watchedRest a) middle next ⟨make a, middle, next, [], []⟩ := by
      rw [same, watchedSame]
      exact lifted rfl middle next
    have whole := first.bind _ second
    rw [List.append_nil, List.append_nil] at whole
    exact whole

end Fetching.Ends

namespace Fetching

theorem registered_ends (q : Query) (mapper : Mapper σ α) (session : Session ω) (own : σ) :
    ∃ result next first, Registers q mapper own result next first ∧
      Ends (registered q mapper) (registered q mapper.recorded) session own
        ⟨result, session, next, first, []⟩ := by
  unfold registered
  by_cases none : q.projection = []
  · simp only [none, List.isEmpty_nil, if_true]
    have called := Ends.call mapper .register session own
    rcases call : mapper.run (Cursor.register, own) with ⟨e | a, left, next⟩
    · rw [call] at called
      exact ⟨.error e, next, [.register], .failed none call, called.stop⟩
    · rw [call] at called
      by_cases unread : left.registered = []
      · refine ⟨_, next, [.register], .nothing none call unread, ?_⟩
        apply called.bind ⟨_, session, next, [], []⟩
        simp only [unread, List.isEmpty_nil, if_true]
        exact Ends.lifted (x := .error _) rfl session next
      · refine ⟨_, next, [.register], .registered none call unread
          (q.projection_withProjection _) (q.withProjection_projection _), ?_⟩
        apply called.bind ⟨_, session, next, [], []⟩
        simp only [List.isEmpty_eq_false_iff.mpr unread, Bool.false_eq_true, if_false]
        exact Ends.lifted (x := .ok _) rfl session next
  · simp only [List.isEmpty_eq_false_iff.mpr none, Bool.false_eq_true, if_false]
    exact ⟨.ok q, own, [], .given none, Ends.lifted (x := .ok q) rfl session own⟩

end Fetching

end Running

end SqlTree
