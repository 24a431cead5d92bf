import SqlTree.Build.Select
import SqlTree.Proofs.Run.Request
import SqlTree.Proofs.Tree.Values

/-!
What a run tells about the values of its statement. Two runs of statements that differ in their
values only, observed without arguments, report the same events and wrap errors in the same way.
-/

namespace SqlTree

/-! ### Statements without their values -/

section Shape

variable (g : Value → Value)

theorem Query.id_mapValues (q : Query) : (q.mapValues g).id = q.id := by
  cases q with
  | select s =>
      rcases s with ⟨ctes, distinct, fields, source⟩
      cases source with
      | none => rfl
      | some source =>
          simp [Query.mapValues, Select.mapValues, Source.mapOption, Query.id, Select.id]
  | insert i => cases i; rfl
  | update u => cases u; rfl
  | delete d => cases d; rfl

theorem Query.projection_mapValues (q : Query) :
    (q.mapValues g).projection = Field.mapEach g q.projection := by
  rcases q with s | i | u | d
  · cases s; rfl
  · cases i; rfl
  · cases u; rfl
  · cases d; rfl

theorem Query.withProjection_mapValues (fields : List Field) (q : Query) :
    (q.withProjection fields).mapValues g =
      (q.mapValues g).withProjection (Field.mapEach g fields) := by
  rcases q with s | i | u | d
  · cases s; rfl
  · cases i; rfl
  · cases u; rfl
  · cases d; rfl

theorem Query.returnsRows_mapValues (q : Query) : (q.mapValues g).returnsRows = q.returnsRows := by
  rcases q with s | i | u | d
  · cases s; rfl
  · cases i; simp [Query.mapValues, Insert.mapValues, Query.returnsRows, Field.mapEach_eq_map]
  · cases u; simp [Query.mapValues, Update.mapValues, Query.returnsRows, Field.mapEach_eq_map]
  · cases d; simp [Query.mapValues, Delete.mapValues, Query.returnsRows, Field.mapEach_eq_map]

theorem Select.questionScript_mapValues (d : Dialect) (s : Select) :
    (s.mapValues g).questionScript d = (s.questionScript d).mapValues g := by
  have inner : ∀ s : Select, (s.mapValues g).script d = (s.script d).mapValues g :=
    fun s => Query.script_mapValues g (.select s) d
  have filled : (s.mapValues g).asked = s.asked.mapValues g := by
    cases s with
    | mk ctes distinct fields => cases fields <;> rfl
  simp only [questionScript, filled, inner, Script.mapValues_append, Script.mapValues_text]

end Shape

/-- The statements differ in their values at most, at any depth. -/
def Query.SameButValues (q q' : Query) : Prop :=
  q.mapValues (fun _ => .null) = q'.mapValues fun _ => .null

inductive Coincide {α α' : Type} (R : α → α' → Prop) : Except Error α → Except Error α' → Prop
  | error (e : Error) : Coincide R (.error e) (.error e)
  | ok {a : α} {a' : α'} (related : R a a') : Coincide R (.ok a) (.ok a')

structure Built.Alike (b b' : Built) : Prop where
  sql : b.sql = b'.sql
  count : b.args.length = b'.args.length

theorem Script.build_alike {s s' : Script} {d : Dialect}
    (same : s.mapValues (fun _ => .null) = s'.mapValues fun _ => .null) :
    Coincide Built.Alike ((s.build d).mapError Fault.toError)
      ((s'.build d).mapError Fault.toError) := by
  have builds := congrArg (Script.build d) same
  rw [build_mapValues, build_mapValues] at builds
  rcases own : s.build d with fault | b <;> rcases other : s'.build d with fault' | b' <;>
    rw [own, other] at builds
  · obtain rfl := Except.error.inj builds
    exact .error _
  · exact nomatch builds
  · exact nomatch builds
  · obtain ⟨sql, args⟩ := Built.mk.inj (Except.ok.inj builds)
    exact .ok ⟨sql, by simpa using congrArg List.length args⟩

namespace Query.SameButValues

variable {q q' : Query}

theorem id_eq (same : q.SameButValues q') : q.id = q'.id := by
  rw [← id_mapValues (fun _ => .null) q, same, id_mapValues]

theorem returnsRows_eq (same : q.SameButValues q') : q.returnsRows = q'.returnsRows := by
  rw [← returnsRows_mapValues (fun _ => .null) q, same, returnsRows_mapValues]

theorem isEmpty_eq (same : q.SameButValues q') :
    q.projection.isEmpty = q'.projection.isEmpty := by
  have columns := congrArg (fun q => q.projection.isEmpty) same
  simpa [projection_mapValues, Field.mapEach_eq_map] using columns

theorem withProjection (same : q.SameButValues q') (fields : List Field) :
    (q.withProjection fields).SameButValues (q'.withProjection fields) := by
  unfold SameButValues
  rw [withProjection_mapValues, same, withProjection_mapValues]

theorem build_alike (same : q.SameButValues q') (d : Dialect) :
    Coincide Built.Alike (q.build d) (q'.build d) := by
  rw [build_eq_script, build_eq_script]
  apply Script.build_alike
  rw [← script_mapValues, ← script_mapValues, same]

end Query.SameButValues

/-! ### Steps that coincide -/

section Steps

variable {σ α α' β β' γ : Type} {R : α → α' → Prop} {S : β → β' → Prop}

/-- From any state the two end in the same state, and in one error or in related results. -/
def Mapping.Coincide (R : α → α' → Prop) (m : Mapping σ α) (m' : Mapping σ α') : Prop :=
  ∀ own, (m.run own).2 = (m'.run own).2 ∧ SqlTree.Coincide R (m.run own).1 (m'.run own).1

namespace Mapping.Coincide

theorem same (m : Mapping σ α) : Coincide Eq m m := by
  intro own
  refine ⟨rfl, ?_⟩
  cases (m.run own).1 with
  | error e => exact .error e
  | ok a => exact .ok rfl

theorem throw (e : Error) : Coincide R (throw e : Mapping σ α) (throw e : Mapping σ α') :=
  fun _ => ⟨rfl, .error e⟩

theorem pure {a : α} {a' : α'} (related : R a a') :
    Coincide R (Pure.pure a : Mapping σ α) (Pure.pure a' : Mapping σ α') :=
  fun _ => ⟨rfl, .ok related⟩

theorem lift {x : Except Error α} {x' : Except Error α'} (related : SqlTree.Coincide R x x') :
    Coincide R (liftM x : Mapping σ α) (liftM x' : Mapping σ α') := by
  cases related with
  | error e => exact throw e
  | ok related => exact pure related

theorem bind {m : Mapping σ α} {m' : Mapping σ α'} {f : α → Mapping σ β} {f' : α' → Mapping σ β'}
    (first : Coincide R m m') (second : ∀ a a', R a a' → Coincide S (f a) (f' a')) :
    Coincide S (m >>= f) (m' >>= f') := by
  intro own
  have run : (m >>= f).run own = ExceptT.bindCont f (m.run own).1 (m.run own).2 := rfl
  have run' : (m' >>= f').run own = ExceptT.bindCont f' (m'.run own).1 (m'.run own).2 := rfl
  obtain ⟨states, results⟩ := first own
  rw [run, run', states]
  revert results
  generalize (m.run own).1 = result
  generalize (m'.run own).1 = result'
  rintro (e | related)
  · exact ⟨rfl, .error e⟩
  · exact second _ _ related _

end Mapping.Coincide

def Mapping.Tells (raises : Error → Prop) (m : Mapping σ α) : Prop :=
  ∀ own id source, (m.run own).1 = .error (.execute id source) → raises (.execute id source)

theorem Mapping.Tells.bind {raises : Error → Prop} {m : Mapping σ α} {f : α → Mapping σ β}
    (first : m.Tells raises) (second : ∀ a, (f a).Tells raises) : (m >>= f).Tells raises := by
  intro own id source
  have run : (m >>= f).run own = ExceptT.bindCont f (m.run own).1 (m.run own).2 := rfl
  have told := first own id source
  rw [run]
  revert told
  rcases m.run own with ⟨e | a, next⟩ <;> intro told
  · intro fails
    exact told (congrArg _ (Except.error.inj fails))
  · exact second a next id source

theorem Mapping.Tells.pure (raises : Error → Prop) (a : α) :
    (Pure.pure a : Mapping σ α).Tells raises := by
  intro own id source fails
  cases fails

theorem Mapping.Tells.lift {raises : Error → Prop} {x : Except Error α}
    (other : ∀ id source, x ≠ .error (.execute id source)) :
    (liftM x : Mapping σ α).Tells raises := by
  intro own id source fails
  cases x with
  | error e => exact absurd fails (other id source)
  | ok a => cases fails

theorem Issue.existsAnswer_ne (records : List Record) (id : StatementId) (source : Error) :
    existsAnswer records ≠ .error (.execute id source) := by
  unfold existsAnswer
  split <;> exact fun same => nomatch same

theorem FetchMode.answer_ne (mode : FetchMode α β) (missing : StatementId) (outputs : List α)
    (id : StatementId) (source : Error) :
    mode.answer missing outputs ≠ .error (.execute id source) := by
  cases mode with
  | each | all | optional => exact fun same => nomatch same
  | one => cases outputs <;> exact fun same => nomatch same

def Mapper.Raises (mapper : Mapper σ α) (e : Error) : Prop :=
  ∃ row own, (mapper.run (row, own)).1 = .error e

theorem Mapper.reading_get_raises (dec : Decoder α) (f : Field) (id : StatementId)
    (source : Error) :
    ¬(Mapper.reading (Cursor.get dec f) : Mapper σ α).Raises (.execute id source) := by
  rintro ⟨row, own, fails⟩
  have read : (Cursor.get dec f row).1 = .error (.execute id source) := fails
  unfold Cursor.get at read
  split at read
  · exact nomatch read
  · split at read
    · exact nomatch read
    · dsimp only at read
      split at read
      · exact nomatch read
      · next v _ =>
        cases decoded : dec.decode v <;> rw [decoded] at read <;> exact nomatch read

theorem Mapper.onRow_tells (mapper : Mapper σ α) (row : Cursor) :
    (mapper.onRow row).Tells mapper.Raises := by
  intro own id source fails
  refine ⟨row, own, ?_⟩
  have run : ((mapper.onRow row).run own).1 = (mapper.run (row, own)).1.map _ := rfl
  rw [run] at fails
  cases result : (mapper.run (row, own)).1 with
  | error e =>
      rw [result] at fails
      exact congrArg _ (Except.error.inj fails)
  | ok a =>
      rw [result] at fails
      exact nomatch fails

theorem Mapper.onRecords_tells (mapper : Mapper σ α) (columns : List Field)
    (records : List Record) : (mapper.onRecords columns records).Tells mapper.Raises := by
  induction records with
  | nil => exact .pure _ _
  | cons record rest ih =>
      apply (mapper.onRow_tells _).bind
      intro mapped
      apply ih.bind
      exact fun others => .pure _ _

theorem Mapper.completes_coincide {q q' : Query} (same : q.SameButValues q')
    (mapper : Mapper σ α) :
    Mapping.Coincide (fun full full' => full.SameButValues full' ∧
        (q.projection = q'.projection → full.projection = full'.projection))
      (mapper.completes q) (mapper.completes q') := by
  unfold completes
  rw [same.isEmpty_eq, same.id_eq]
  split
  · apply (Mapping.Coincide.same (mapper.onRow .register)).bind
    rintro ⟨_, cursor⟩ _ rfl
    dsimp only
    split
    · exact .throw _
    · refine .pure ⟨same.withProjection _, fun _ => ?_⟩
      rw [Query.projection_withProjection, Query.projection_withProjection]
  · exact .pure ⟨same, id⟩

end Steps

/-! ### Requests that coincide -/

section Requests

variable {σ α β γ : Type}

/-- Two ways to present an answer. They are the same if `exactly`, and the errors of statements in
them come from the raiser. -/
structure Presenting (exactly : Prop) (raises : Error → Prop) (present present' : γ → Mapping σ β) :
    Prop where
  exact : exactly → present = present'
  tells : ∀ a, (present a).Tells raises
  tells' : ∀ a, (present' a).Tells raises

theorem Presenting.same {exactly : Prop} {raises : Error → Prop} {present : γ → Mapping σ β}
    (tells : ∀ a, (present a).Tells raises) : Presenting exactly raises present present :=
  ⟨fun _ => rfl, tells, tells⟩

inductive Request.Alike (exactly : Prop) (raises : Error → Prop) :
    Request σ β → Request σ β → Prop
  | query {id : StatementId} {b b' : Built} {present present' : List Record → Mapping σ β}
      (same : b.Alike b') (presenting : Presenting exactly raises present present') :
      Alike exactly raises (.query id b present) (.query id b' present')
  | execute {id : StatementId} {b b' : Built} {present present' : Nat → Mapping σ β}
      (same : b.Alike b') (presenting : Presenting exactly raises present present') :
      Alike exactly raises (.execute id b present) (.execute id b' present')
  | generatedId {id : StatementId} {b b' : Built} {present present' : Option Int64 → Mapping σ β}
      (same : b.Alike b') (presenting : Presenting exactly raises present present') :
      Alike exactly raises (.generatedId id b present) (.generatedId id b' present')

namespace Entry

/-- The same way to run statements that differ in their values at most; a fetch has the same
mapper. -/
inductive Alike : {β : Type} → Entry σ β → Entry σ β → Prop
  | exec {mode : ExecMode} {q q' : Query} (same : q.SameButValues q') :
      Alike (.exec mode q) (.exec mode q')
  | hasRows {s s' : Select} (same : (Query.select s).SameButValues (.select s')) :
      Alike (.hasRows s) (.hasRows s')
  | fetch {α β : Type} {mode : FetchMode α β} {q q' : Query} {mapper : Mapper σ α}
      (same : q.SameButValues q') : Alike (.fetch mode q mapper) (.fetch mode q' mapper)

def columns : Entry σ β → List Field
  | fetch _ q _ => q.projection
  | exec _ _ | hasRows _ => []

def Raises : Entry σ β → Error → Prop
  | fetch _ _ mapper, e => mapper.Raises e
  | exec _ _, _ | hasRows _, _ => False

theorem exec_coincides {mode : ExecMode} {q q' : Query} (same : q.SameButValues q') (d : Dialect)
    (exactly : Prop) (raises : Error → Prop) :
    Mapping.Coincide (Request.Alike exactly raises) ((exec mode q : Entry σ _).request d)
      ((exec mode q').request d) := by
  have accepts : mode.Accepts d q ↔ mode.Accepts d q' := by
    rw [ExecMode.Accepts, ExecMode.Accepts, same.returnsRows_eq]
  rw [request, request]
  by_cases accepted : mode.Accepts d q
  · rw [if_pos accepted, if_pos (accepts.mp accepted)]
    apply (Mapping.Coincide.lift (same.build_alike d)).bind
    intro b b' alike
    rw [same.id_eq]
    refine .pure ?_
    cases mode with
    | nothing | affectedRows => exact .execute alike (.same fun _ => .pure raises _)
    | generatedId => exact .generatedId alike (.same fun _ => .pure raises _)
  · rw [if_neg accepted, if_neg fun other => accepted (accepts.mpr other), ExecMode.refusal,
      same.id_eq]
    exact .throw _

theorem hasRows_coincides {s s' : Select} (same : (Query.select s).SameButValues (.select s'))
    (d : Dialect) (exactly : Prop) (raises : Error → Prop) :
    Mapping.Coincide (Request.Alike exactly raises) ((hasRows s : Entry σ _).request d)
      ((hasRows s').request d) := by
  have blank : s.mapValues (fun _ => .null) = s'.mapValues fun _ => .null :=
    Query.select.inj same
  have scripts : (s.questionScript d).mapValues (fun _ => .null) =
      (s'.questionScript d).mapValues fun _ => .null := by
    rw [← Select.questionScript_mapValues, blank, Select.questionScript_mapValues]
  have id : s.id = s'.id := same.id_eq
  rw [request, request, Select.question_build, Select.question_build]
  apply (Mapping.Coincide.lift (Script.build_alike scripts)).bind
  intro b b' alike
  rw [id]
  exact .pure (.query alike (.same fun records => .lift (Issue.existsAnswer_ne records)))

theorem fetch_coincides {mode : FetchMode α β} {q q' : Query} (same : q.SameButValues q')
    (mapper : Mapper σ α) (d : Dialect) :
    Mapping.Coincide (Request.Alike (q.projection = q'.projection) mapper.Raises)
      ((fetch mode q mapper).request d) ((fetch mode q' mapper).request d) := by
  rw [request, request]
  apply (mapper.completes_coincide same).bind
  rintro full full' ⟨completed, columns⟩
  apply (Mapping.Coincide.lift (completed.build_alike d)).bind
  intro b b' alike
  rw [completed.id_eq, same.id_eq]
  have tells (full : Query) (records : List Record) : (do
      let outputs ← mapper.onRecords full.projection (mode.mapped records)
      liftM (mode.answer q'.id outputs) : Mapping σ β).Tells mapper.Raises :=
    (mapper.onRecords_tells _ _).bind fun outputs => .lift (mode.answer_ne q'.id outputs)
  exact .pure (.query alike
    ⟨fun exact => by rw [columns exact], tells full, tells full'⟩)

theorem Alike.request_coincides {e e' : Entry σ β} (alike : e.Alike e') (d : Dialect) :
    Mapping.Coincide (Request.Alike (e.columns = e'.columns) e.Raises) (e.request d)
      (e'.request d) := by
  cases alike with
  | exec same => exact exec_coincides same d _ _
  | hasRows same => exact hasRows_coincides same d _ _
  | fetch same => exact fetch_coincides same _ d

end Entry

end Requests

/-! ### Observed runs -/

/-- A report that a statement took long; there is one only if it did. -/
def Event.isSlowReport (e : Event) : Bool := e.data.any (·.1 == "threshold_ms")

/-- The events without the reports of slow statements. -/
def Event.untimed (events : List Event) : List Event := events.filter (!·.isSlowReport)

theorem Event.untimed_append (before after : List Event) :
    untimed (before ++ after) = untimed before ++ untimed after := List.filter_append before after

/-- The same answer, and neither time is it late. -/
structure Reply.Agree {α : Type} (o : Observer) (r r' : Reply α) : Prop where
  result : r.result = r'.result
  inTime : o.isLate r = none
  inTime' : o.isLate r' = none

namespace Session

variable {ω α β : Type} (session : Session ω)

theorem emit_bind (e : Event) (next : Unit → StateM (Session ω) α) :
    (emit e >>= next) session = next () { session with events := session.events ++ [e] } := rfl

theorem send_bind (action : StateM ω (Reply α)) (next : Reply α → StateM (Session ω) β) :
    (send action >>= next) session =
      next (action session.world).1 { session with world := (action session.world).2 } := rfl

theorem pure_run (a : α) : (pure a : StateM (Session ω) α) session = (a, session) := rfl

end Session

namespace Observer

variable {ω α : Type} (o : Observer)

def failures (result : Except Error α) : List Event :=
  match result with
  | .error e => [failureEvent e]
  | .ok _ => []

def reports (d : Dialect) (b : Built) (r : Reply α) : List Event :=
  [o.statementEvent d b] ++ ((o.isSlow r).map fun limit => o.slowEvent limit b).toList ++
    failures r.result

theorem watch_eq (d : Dialect) (b : Built) (action : StateM ω (Reply α)) (session : Session ω)
    (inTime : o.isLate (action session.world).1 = none) :
    o.watch d b action session = ((action session.world).1.result,
      ⟨(action session.world).2,
        session.events ++ o.reports d b (action session.world).1⟩) := by
  rcases ran : action session.world with ⟨reply, world⟩
  rw [ran] at inTime
  have limited : o.limited reply = reply := by
    rw [Observer.limited, inTime]
  rw [watch, reports, Session.emit_bind, Session.send_bind]
  simp only [ran, limited]
  cases o.isSlow reply <;> cases reply.result <;>
    simp only [Session.emit_bind, Session.pure_run, failures, Option.map_none, Option.map_some,
      Option.toList_none, Option.toList_some, List.append_assoc, List.append_nil, List.cons_append,
      List.nil_append]

theorem untimed_reports (d : Dialect) (b : Built) (r : Reply α) :
    Event.untimed (o.reports d b r) = [o.statementEvent d b] ++ failures r.result := by
  have statement : (o.statementEvent d b).isSlowReport = false := by
    cases o with
    | mk timer timeout slow level maxLength showArgs => cases showArgs <;> rfl
  have slow (limit : Span) : (o.slowEvent limit b).isSlowReport = true := rfl
  have failed (e : Error) : (failureEvent e).isSlowReport = false := rfl
  unfold reports Event.untimed failures
  cases o.isSlow r <;> cases r.result <;> simp [statement, slow, failed]

variable {o} {b b' : Built}

theorem statementEvent_alike (hidden : o.showArgs = false) (alike : b.Alike b') (d : Dialect) :
    o.statementEvent d b = o.statementEvent d b' := by
  simp [statementEvent, hidden, alike.sql, alike.count]

theorem untimed_reports_alike (hidden : o.showArgs = false) (alike : b.Alike b') (d : Dialect)
    {r r' : Reply α} (agree : r.Agree o r') :
    Event.untimed (o.reports d b r) = Event.untimed (o.reports d b' r') := by
  rw [untimed_reports, untimed_reports, statementEvent_alike hidden alike, agree.result]

theorem reports_alike (hidden : o.showArgs = false) (alike : b.Alike b') (d : Dialect)
    {r r' : Reply α} (agree : r.Agree o r') (slow : o.isSlow r = o.isSlow r') :
    o.reports d b r = o.reports d b' r' := by
  have reported : (fun limit => o.slowEvent limit b) = fun limit => o.slowEvent limit b' := by
    funext limit
    rw [slowEvent, slowEvent, alike.sql]
  rw [reports, reports, statementEvent_alike hidden alike, agree.result, slow, reported]

end Observer

theorem Issue.event_alike {b b' : Built} (alike : b.Alike b') (d : Dialect) (id : StatementId) :
    event d id b = event d id b' := by
  rw [event, event, alike.sql, alike.count]

section Runs

variable {ω ω' σ β γ : Type} {o : Observer} {db : Database ω} {db' : Database ω'}
  {session : Session ω} {session' : Session ω'}

/-- An issued statement is reported, then observed, and its error is wrapped. -/
theorem Issue.run_observed (observed : db.observer = some o) (id : StatementId) (b : Built)
    (action : StateM ω (Reply γ)) (inTime : o.isLate (action session.world).1 = none) :
    Issue.run db id b (db.run b action) session =
      ((action session.world).1.result.mapError (.execute id),
        ⟨(action session.world).2, session.events ++ [event db.dialect id b] ++
          o.reports db.dialect b (action session.world).1⟩) := by
  have sent : db.run b action = o.watch db.dialect b action := by
    rw [Database.run, observed]
  rw [Issue.run, Session.emit_bind, sent]
  have watched := o.watch_eq db.dialect b action
    { session with events := session.events ++ [event db.dialect id b] } inTime
  show ((o.watch db.dialect b action _).1.mapError (Error.execute id),
    (o.watch db.dialect b action _).2) = _
  rw [watched]

structure RunsAlike (exactly asSlow : Prop) (raises : Error → Prop)
    (run : Except Error β × Session ω × σ) (run' : Except Error β × Session ω' × σ) : Prop where
  /-- the events are the same, but for reports of slow statements -/
  untimed : Event.untimed run.2.1.events = Event.untimed run'.2.1.events
  events : asSlow → run.2.1.events = run'.2.1.events
  exact : exactly → run.1 = run'.1 ∧ run.2.2 = run'.2.2
  wrapped : ∀ id source, ¬raises (.execute id source) →
    (run.1 = .error (.execute id source) ↔ run'.1 = .error (.execute id source))

theorem Request.issued_alike (observed : db.observer = some o) (observed' : db'.observer = some o)
    (hidden : o.showArgs = false) (dialects : db.dialect = db'.dialect)
    (events : session.events = session'.events) (id : StatementId) {b b' : Built}
    (alike : b.Alike b') (action : StateM ω (Reply γ)) (action' : StateM ω' (Reply γ))
    (agree : (action session.world).1.Agree o (action' session'.world).1) {asSlow exactly : Prop}
    (slow : asSlow → o.isSlow (action session.world).1 = o.isSlow (action' session'.world).1)
    {raises : Error → Prop} {present present' : γ → Mapping σ β}
    (presenting : Presenting exactly raises present present') (own : σ) :
    RunsAlike exactly asSlow raises
      ((issued db id b (db.run b action) present).run (session, own))
      ((issued db' id b' (db'.run b' action') present').run (session', own)) := by
  have sessions : ((issued db id b (db.run b action) present).run (session, own)).2.1.events =
      session'.events ++ [Issue.event db'.dialect id b'] ++
        o.reports db'.dialect b (action session.world).1 := by
    rw [session_issued, Issue.run_observed observed id b action agree.inTime, events,
      Issue.event_alike alike, dialects]
  have sessions' : ((issued db' id b' (db'.run b' action') present').run
      (session', own)).2.1.events = session'.events ++ [Issue.event db'.dialect id b'] ++
        o.reports db'.dialect b' (action' session'.world).1 := by
    rw [session_issued, Issue.run_observed observed' id b' action' agree.inTime']
  refine ⟨?_, fun holds => ?_, fun holds => ?_, fun other source quiet => ?_⟩
  · rw [sessions, sessions', Event.untimed_append,
      Observer.untimed_reports_alike hidden alike _ agree, ← Event.untimed_append]
  · rw [sessions, sessions', Observer.reports_alike hidden alike _ agree (slow holds)]
  · rw [run_issued, run_issued, Issue.run_observed observed id b action agree.inTime,
      Issue.run_observed observed' id b' action' agree.inTime', agree.result,
      presenting.exact holds]
    cases (action' session'.world).1.result <;> exact ⟨rfl, rfl⟩
  · rw [run_issued, run_issued, Issue.run_observed observed id b action agree.inTime,
      Issue.run_observed observed' id b' action' agree.inTime', agree.result]
    cases (action' session'.world).1.result with
    | error e => exact Iff.rfl
    | ok a =>
        -- both are past the call, so that only the mapper could raise such an error
        constructor
        · exact fun raised => absurd (presenting.tells a own other source raised) quiet
        · exact fun raised => absurd (presenting.tells' a own other source raised) quiet

/-- Two calls of one kind are answered with the same, in time. -/
def Backend.Agree (o : Observer) (backend : Backend ω) (backend' : Backend ω') (world : ω)
    (world' : ω') : Backend.Call → Backend.Call → Prop
  | .query b, .query b' => (backend.query b world).1.Agree o (backend'.query b' world').1
  | .execute b, .execute b' => (backend.execute b world).1.Agree o (backend'.execute b' world').1
  | .generatedId b, .generatedId b' =>
      (backend.generatedId b world).1.Agree o (backend'.generatedId b' world').1
  | _, _ => True

def Backend.isSlow (o : Observer) (backend : Backend ω) (world : ω) : Backend.Call → Option Span
  | .query b => o.isSlow (backend.query b world).1
  | .execute b => o.isSlow (backend.execute b world).1
  | .generatedId b => o.isSlow (backend.generatedId b world).1

theorem Request.perform_alike (observed : db.observer = some o) (observed' : db'.observer = some o)
    (hidden : o.showArgs = false) (dialects : db.dialect = db'.dialect)
    (events : session.events = session'.events) {exactly : Prop} {raises : Error → Prop}
    {request request' : Request σ β} (alike : request.Alike exactly raises request')
    (agree : db.backend.Agree o db'.backend session.world session'.world request.call request'.call)
    (own : σ) :
    RunsAlike exactly
      (db.backend.isSlow o session.world request.call =
        db'.backend.isSlow o session'.world request'.call) raises
      ((request.perform db).run (session, own)) ((request'.perform db').run (session', own)) := by
  cases alike with
  | query same presenting | execute same presenting | generatedId same presenting =>
      exact issued_alike observed observed' hidden dialects events _ same _ _ agree id presenting
        own

end Runs

/-- Two statements that differ in their values only are run in the same way, observed without
arguments, and their databases give the same answers in time. Then the same events are reported, but
for the reports of slow statements, and with those if both are slow or neither is; and a statement
is said to have failed with an error in both runs or in none, unless the mapper itself says so. If
the columns to be mapped are the same as well, then so is all that comes of the runs. -/
theorem Entry.runs_alike {ω ω' σ β : Type} {o : Observer} (hidden : o.showArgs = false)
    (db : Database ω) (db' : Database ω') (observed : db.observer = some o)
    (observed' : db'.observer = some o) (dialects : db.dialect = db'.dialect) {e e' : Entry σ β}
    (alike : e.Alike e') (session : Session ω) (session' : Session ω')
    (events : session.events = session'.events) (own : σ)
    (agree : ∀ call ∈ e.calls db session own, ∀ call' ∈ e'.calls db' session' own,
      db.backend.Agree o db'.backend session.world session'.world call call') :
    RunsAlike (e.columns = e'.columns)
      (∀ call ∈ e.calls db session own, ∀ call' ∈ e'.calls db' session' own,
        db.backend.isSlow o session.world call =
          db'.backend.isSlow o session'.world call') e.Raises
      ((e.run db).run (session, own)) ((e'.run db').run (session', own)) := by
  obtain ⟨states, results⟩ := alike.request_coincides db.dialect own
  rcases asked : (e.request db.dialect).run own with ⟨result, next⟩
  rcases asked' : (e'.request db.dialect).run own with ⟨result', next'⟩
  rw [asked, asked'] at states results
  obtain rfl : next = next' := states
  rw [dialects] at asked'
  dsimp only at results
  cases results with
  | error err =>
      rw [run_refused asked, run_refused asked']
      exact ⟨by rw [events], fun _ => events, fun _ => ⟨rfl, rfl⟩, fun _ _ _ => Iff.rfl⟩
  | ok related =>
      rw [calls_asked asked, calls_asked asked'] at agree ⊢
      rw [run_asked db asked, run_asked db' asked']
      simp only [List.mem_singleton, forall_eq] at agree ⊢
      exact Request.perform_alike observed observed' hidden dialects events related agree next

/-- Whether there is an account of this name with this password. -/
def login (name password : String) : Query :=
  let account : Query := .select
    { Select.ofFields [.bare "id"] with
      source := some (.table (.named "account"))
      conditions := [.compare (.bare "name") .eq (.value (.text name)),
        .compare (.bare "password") .eq (.shared "password" (.text password))] }
  .select
    { Select.ofFields [.aliased (.value (.text name)) "name"] with
      source := some (.subquery account "found") }

def foundName : Mapper Unit String :=
  .reading (Cursor.get Decoder.string (.aliased (.value (.text "ann")) "name"))

def lostConnection (busy : Span) : Database Unit where
  backend :=
    { dialect := .postgres
      query := fun _ => pure ⟨.error (.other "connection lost"), busy, ⟨0⟩⟩
      execute := fun _ => pure ⟨.error (.other "connection lost"), busy, ⟨0⟩⟩
      generatedId := fun _ => pure ⟨.error (.other "connection lost"), busy, ⟨0⟩⟩ }
  observer :=
    some { Observer.standard .milliseconds with timeout := some ⟨5⟩, slow := some ⟨1⟩ }

theorem lostConnection_agree (busy busy' : Span) (o : Observer) (call call' : Backend.Call) :
    (lostConnection busy).backend.Agree o (lostConnection busy').backend () () call call' := by
  cases call <;> cases call' <;>
    first
      | exact True.intro
      | exact ⟨rfl, Observer.isLate_atOnce rfl, Observer.isLate_atOnce rfl⟩

def loggingIn (name password : String) (busy : Span) :
    Except Error String × Session Unit × Unit :=
  ((Entry.fetch .one (login name password) foundName).run (lostConnection busy)).run (⟨(), []⟩, ())

theorem Entry.runs_alike_loggingIn :
    (loggingIn "ann" "secret" ⟨2⟩).2.1.events = (loggingIn "bob" "" ⟨3⟩).2.1.events ∧
      (loggingIn "ann" "secret" ⟨2⟩).1 =
        .error (.execute ⟨.select, some "found"⟩ (.other "connection lost")) ∧
      (loggingIn "bob" "" ⟨3⟩).1 =
        .error (.execute ⟨.select, some "found"⟩ (.other "connection lost")) := by
  have same : (Entry.fetch .one (login "ann" "secret") foundName).Alike
      (.fetch .one (login "bob" "") foundName) := .fetch rfl
  have alike := Entry.runs_alike rfl (lostConnection ⟨2⟩) (lostConnection ⟨3⟩) rfl rfl rfl same
    ⟨(), []⟩ ⟨(), []⟩ rfl () fun call _ call' _ => lostConnection_agree _ _ _ call call'
  have failed : (loggingIn "ann" "secret" ⟨2⟩).1 =
      .error (.execute ⟨.select, some "found"⟩ (.other "connection lost")) := rfl
  refine ⟨alike.events ?_, failed, (alike.wrapped _ _ ?_).mp failed⟩
  · intro call _ call' _
    cases call <;> cases call' <;> rfl
  · exact Mapper.reading_get_raises _ _ _ _

end SqlTree
