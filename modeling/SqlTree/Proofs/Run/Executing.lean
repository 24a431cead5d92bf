import SqlTree.Proofs.Run.Fetching

/-!
What executing a statement does with its database: one call with exactly what the statement builds,
or none if it is refused or cannot be written. The answer fills the part of the result that was
asked for, and an error of the call comes back with the statement's identity around it.
-/

namespace SqlTree

/-- The two errors have one root and are of one kind. -/
structure Error.SameKind (e f : Error) : Prop where
  root : e.root = f.root
  uniqueViolation : e.isUniqueViolation = f.isUniqueViolation
  notFound : e.isNotFound = f.isNotFound
  timeout : e.isTimeout = f.isTimeout
  render : e.isRender = f.isRender

theorem Error.execute_sameKind (statement : StatementId) (source : Error) :
    (execute statement source).SameKind source :=
  ⟨rfl, rfl, rfl, rfl, rfl⟩

namespace ExecMode

def call : ExecMode → Built → Backend.Call
  | nothing, b | affectedRows, b => .execute b
  | generatedId, b => .generatedId b

/-- A generated id of the numbered dialect is read from rows, so that there have to be some. -/
def Accepts (mode : ExecMode) (d : Dialect) (q : Query) : Prop :=
  mode = generatedId → d = .postgres → q.returnsRows = true

theorem not_accepts {mode : ExecMode} {d : Dialect} {q : Query} :
    ¬mode.Accepts d q ↔ mode = generatedId ∧ d = .postgres ∧ q.returnsRows = false := by
  simp [Accepts]

def refusal (q : Query) : Error :=
  .validation (q.id.text ++ ": reading the generated id on postgres requires a RETURNING clause")

def Fails {ω : Type} (db : Database ω) (b : Built) (session : Session ω) (e : Error)
    (after : Session ω) : ExecMode → Prop
  | nothing | affectedRows => db.execute b session = (.error e, after)
  | generatedId => db.generatedId b session = (.error e, after)

end ExecMode

/-- How an execution ends: its result, the session it leaves and the calls that reached its
backend. -/
structure Executed (ω : Type) where
  result : Except Error ExecResult
  session : Session ω
  calls : List Backend.Call

def Session.issuing {ω : Type} (session : Session ω) (d : Dialect) (id : StatementId) (b : Built) :
    Session ω :=
  { session with events := session.events ++ [Issue.event d id b] }

inductive Executes {ω : Type} (db : Database ω) (q : Query) (session : Session ω) :
    ExecMode → Executed ω → Prop
  /-- the backend is not called for an id that it cannot give -/
  | refused (numbered : db.dialect = .postgres) (rowless : q.returnsRows = false) :
      Executes db q session .generatedId ⟨.error (ExecMode.refusal q), session, []⟩
  /-- neither is it if the statement cannot be written -/
  | unwritten {mode : ExecMode} {e : Error} (accepted : mode.Accepts db.dialect q)
      (refused : q.build db.dialect = .error e) :
      Executes db q session mode ⟨.error e, session, []⟩
  | failed {mode : ExecMode} {b : Built} {e : Error} {after : Session ω}
      (accepted : mode.Accepts db.dialect q) (written : q.build db.dialect = .ok b)
      (failure : mode.Fails db b (session.issuing db.dialect q.id b) e after) :
      Executes db q session mode ⟨.error (.execute q.id e), after, [mode.call b]⟩
  | done {b : Built} {n : Nat} {after : Session ω} (written : q.build db.dialect = .ok b)
      (answer : db.execute b (session.issuing db.dialect q.id b) = (.ok n, after)) :
      Executes db q session .nothing ⟨.ok ⟨none, none⟩, after, [.execute b]⟩
  | counted {b : Built} {n : Nat} {after : Session ω} (written : q.build db.dialect = .ok b)
      (answer : db.execute b (session.issuing db.dialect q.id b) = (.ok n, after)) :
      Executes db q session .affectedRows ⟨.ok ⟨some n, none⟩, after, [.execute b]⟩
  | identified {b : Built} {id : Option Int64} {after : Session ω}
      (accepted : ExecMode.generatedId.Accepts db.dialect q) (written : q.build db.dialect = .ok b)
      (answer : db.generatedId b (session.issuing db.dialect q.id b) = (.ok id, after)) :
      Executes db q session .generatedId ⟨.ok ⟨none, id⟩, after, [.generatedId b]⟩

namespace Executes

variable {ω : Type} {db : Database ω} {q : Query} {session : Session ω} {mode : ExecMode}
  {f : Executed ω}

theorem quiet (executes : Executes db q session mode f)
    (reason : ¬mode.Accepts db.dialect q ∨ ∃ e, q.build db.dialect = .error e) :
    f.calls = [] ∧ f.session = session ∧ ∃ e, f.result = .error e ∧
      (¬mode.Accepts db.dialect q → e = ExecMode.refusal q) ∧
      (mode.Accepts db.dialect q → q.build db.dialect = .error e) := by
  -- each course that makes a call has accepted the mode and has something written
  have contrary {b : Built} (accepted : mode.Accepts db.dialect q)
      (written : q.build db.dialect = .ok b) : False := by
    obtain refused | ⟨e, unwritten⟩ := reason
    · exact refused accepted
    · exact nomatch unwritten.symm.trans written
  cases executes with
  | refused numbered rowless =>
      refine ⟨rfl, rfl, _, rfl, fun _ => rfl, fun accepted => ?_⟩
      exact nomatch rowless.symm.trans (accepted rfl numbered)
  | unwritten accepted refused =>
      exact ⟨rfl, rfl, _, rfl, fun rejected => absurd accepted rejected, fun _ => refused⟩
  | failed accepted written => exact (contrary accepted written).elim
  | done written => exact (contrary (fun other => nomatch other) written).elim
  | counted written => exact (contrary (fun other => nomatch other) written).elim
  | identified accepted written => exact (contrary accepted written).elim

/-- There is one call, with what the statement builds, if the mode is accepted and the statement can
be written. -/
theorem calls_eq {b : Built} (executes : Executes db q session mode f)
    (accepts : mode.Accepts db.dialect q) (builds : q.build db.dialect = .ok b) :
    f.calls = [mode.call b] := by
  have same {other : Built} (written : q.build db.dialect = .ok other) : other = b :=
    Except.ok.inj (written.symm.trans builds)
  cases executes with
  | refused numbered rowless => exact nomatch rowless.symm.trans (accepts rfl numbered)
  | unwritten accepted refused => exact nomatch refused.symm.trans builds
  | failed accepted written => rw [same written]
  | done written => rw [same written]; rfl
  | counted written => rw [same written]; rfl
  | identified accepted written => rw [same written]; rfl

theorem wrapped {e : Error} (executes : Executes db q session mode f) (called : f.calls ≠ [])
    (fails : f.result = .error e) :
    ∃ b source, q.build db.dialect = .ok b ∧
      mode.Fails db b (session.issuing db.dialect q.id b) source f.session ∧
      e = .execute q.id source := by
  cases executes with
  | refused | unwritten => exact absurd rfl called
  | failed accepted written failure =>
      exact ⟨_, _, written, failure, (Except.error.inj fails).symm⟩
  | done | counted | identified => exact nomatch fails

/-- A result has no other part than the one asked for. The number of rows is always known, an id
is not. -/
theorem fills {r : ExecResult} (executes : Executes db q session mode f)
    (succeeds : f.result = .ok r) :
    (r.affectedRows.isSome ↔ mode = .affectedRows) ∧
      (r.generatedId.isSome → mode = .generatedId) := by
  cases executes with
  | refused | unwritten | failed => exact nomatch succeeds
  | done | counted | identified =>
      obtain rfl := Except.ok.inj succeeds
      simp

end Executes

/-! ### Running executions -/

section Running

variable {ω α : Type}

theorem Issue.run_recorded {watched : Database (ω × List Backend.Call)} {db : Database ω}
    (same : watched.dialect = db.dialect) (id : StatementId) (b : Built) {calls : List Backend.Call}
    {watchedSend : StateM (Session (ω × List Backend.Call)) (Except Error α)}
    {send : StateM (Session ω) (Except Error α)}
    (records : Session.Records calls watchedSend send) :
    Session.Records calls (Issue.run watched id b watchedSend) (Issue.run db id b send) := by
  unfold Issue.run
  rw [same]
  apply Session.Records.after_emit
  apply records.followed
  intro result
  exact Session.Records.pure _

/-- Issuing something written by a mode, and what is made of the answer. -/
def ExecMode.send (db : Database ω) (id : StatementId) (b : Built) :
    ExecMode → StateM (Session ω) (Except Error ExecResult)
  | nothing => do
      let result ← Issue.run db id b (db.execute b)
      pure (result.map fun _ => ⟨none, none⟩)
  | affectedRows => do
      let result ← Issue.run db id b (db.execute b)
      pure (result.map fun n => ⟨some n, none⟩)
  | generatedId => do
      let result ← Issue.run db id b (db.generatedId b)
      pure (result.map fun id => ⟨none, id⟩)

variable {db : Database ω} {q : Query} {mode : ExecMode} {b : Built}

theorem Issue.exec_refused (numbered : db.dialect = .postgres) (rowless : q.returnsRows = false) :
    Issue.exec db q .generatedId = pure (.error (ExecMode.refusal q)) := by
  unfold Issue.exec Issue.refusesId ExecMode.refusal
  simp only [numbered, rowless, and_self, if_true, Dialect.name, String.append_assoc]
  rfl

theorem Issue.refusal_none (accepted : mode.Accepts db.dialect q) :
    (if mode = .generatedId then Issue.refusesId db.dialect q else none) = none := by
  unfold Issue.refusesId
  split
  · next generated =>
    rw [if_neg]
    rintro ⟨numbered, rowless⟩
    exact nomatch rowless.symm.trans (accepted generated numbered)
  · rfl

theorem Issue.exec_unwritten {e : Error} (accepted : mode.Accepts db.dialect q)
    (refused : q.build db.dialect = .error e) : Issue.exec db q mode = pure (.error e) := by
  unfold Issue.exec
  simp only [Issue.refusal_none accepted, refused]

theorem Issue.exec_written (accepted : mode.Accepts db.dialect q)
    (written : q.build db.dialect = .ok b) : Issue.exec db q mode = mode.send db q.id b := by
  unfold Issue.exec
  simp only [Issue.refusal_none accepted, written]
  cases mode <;> rfl

theorem ExecMode.send_executes (session : Session ω) (accepted : mode.Accepts db.dialect q)
    (written : q.build db.dialect = .ok b) :
    Executes db q session mode
      ⟨(mode.send db q.id b session).1, (mode.send db q.id b session).2, [mode.call b]⟩ := by
  have ends {β : Type} (call : StateM (Session ω) (Except Error β)) (present : β → ExecResult) :
      (Issue.run db q.id b call >>= fun result =>
        (pure (result.map present) : StateM (Session ω) _)) session =
      (((call (session.issuing db.dialect q.id b)).1.mapError (.execute q.id)).map present,
        (call (session.issuing db.dialect q.id b)).2) := rfl
  cases mode with
  | nothing =>
      rw [send, ends]
      rcases answer : db.execute b (session.issuing db.dialect q.id b) with ⟨e | n, after⟩
      · exact .failed accepted written answer
      · exact .done written answer
  | affectedRows =>
      rw [send, ends]
      rcases answer : db.execute b (session.issuing db.dialect q.id b) with ⟨e | n, after⟩
      · exact .failed accepted written answer
      · exact .counted written answer
  | generatedId =>
      rw [send, ends]
      rcases answer : db.generatedId b (session.issuing db.dialect q.id b) with ⟨e | id, after⟩
      · exact .failed accepted written answer
      · exact .identified accepted written answer

/-- A database in front of another one: it keeps a record of the calls that it makes there. -/
structure Database.Records (wire : Backend.Call → Backend.Call)
    (watched : Database (ω × List Backend.Call)) (db : Database ω) : Prop where
  dialect : watched.dialect = db.dialect
  execute : ∀ b, Session.Records [wire (.execute b)] (watched.execute b) (db.execute b)
  generatedId : ∀ b,
    Session.Records [wire (.generatedId b)] (watched.generatedId b) (db.generatedId b)

variable {wire : Backend.Call → Backend.Call} {watched : Database (ω × List Backend.Call)}

theorem ExecMode.send_records (records : Database.Records wire watched db) (id : StatementId)
    (b : Built) :
    Session.Records [wire (mode.call b)] (mode.send watched id b) (mode.send db id b) := by
  cases mode with
  | nothing | affectedRows =>
      apply (Issue.run_recorded records.dialect id b (records.execute b)).followed
      intro result
      exact Session.Records.pure _
  | generatedId =>
      apply (Issue.run_recorded records.dialect id b (records.generatedId b)).followed
      intro result
      exact Session.Records.pure _

/-- An execution takes one of the courses, and a record that is kept of its calls holds those of
that course. -/
theorem Issue.exec_ends (db : Database ω) (q : Query) (mode : ExecMode) (session : Session ω) :
    ∃ f, Executes db q session mode f ∧ Issue.exec db q mode session = (f.result, f.session) ∧
      ∀ wire watched, Database.Records wire watched db →
        Issue.exec watched q mode (session.recorded []) =
          (f.result, f.session.recorded (f.calls.map wire)) := by
  by_cases accepted : mode.Accepts db.dialect q
  · cases written : q.build db.dialect with
    | error e =>
        refine ⟨_, .unwritten accepted written, ?_, fun wire watched records => ?_⟩
        · rw [Issue.exec_unwritten accepted written]
          rfl
        · rw [← records.dialect] at accepted written
          rw [Issue.exec_unwritten accepted written]
          rfl
    | ok b =>
        refine ⟨_, mode.send_executes session accepted written, ?_, fun wire watched records => ?_⟩
        · rw [Issue.exec_written accepted written]
          rfl
        · rw [← records.dialect] at accepted written
          rw [Issue.exec_written accepted written, ExecMode.send_records records q.id b]
          rfl
  · obtain ⟨rfl, numbered, rowless⟩ := ExecMode.not_accepts.mp accepted
    refine ⟨_, .refused numbered rowless, ?_, fun wire watched records => ?_⟩
    · rw [Issue.exec_refused numbered rowless]
      rfl
    · rw [Issue.exec_refused (records.dialect.trans numbered) rowless]
      rfl

theorem Database.dialect_recorded (db : Database ω) : db.recorded.dialect = db.dialect := rfl

theorem Database.records_recorded (db : Database ω) : Database.Records id db.recorded db where
  dialect := rfl
  execute b := db.run_recorded b (.execute b) (db.backend.execute b)
  generatedId b := db.run_recorded b (.generatedId b) (db.backend.generatedId b)

/-! ### Backends without generated ids of their own -/

/-- Generated ids are read from the rows of the statement. -/
def Backend.readingIds (backend : Backend ω) : Backend ω :=
  { backend with generatedId := Backend.idFromRows backend.query }

def Database.readingIds (db : Database ω) : Database ω := ⟨db.backend.readingIds, db.observer⟩

def Backend.Call.beneath : Backend.Call → Backend.Call
  | generatedId b => query b
  | other => other

theorem Database.records_beneath (db : Database ω) :
    Database.Records Backend.Call.beneath db.recorded.readingIds db.readingIds where
  dialect := rfl
  execute b := db.run_recorded b (.execute b) (db.backend.execute b)
  generatedId b := db.run_recorded b (.query b) (Backend.idFromRows db.backend.query b)

end Running

/-- Executing any statement, by any mode and on any database. If the mode is refused or the
statement cannot be written, nothing happens, and else there is exactly one call, that of the mode,
with what the statement builds. A result has no other part than the one asked for; an error of the
call comes back with the identity of the statement around it and is of the kind that it was. A
backend that keeps a record holds these calls and no others in the end, and if it reads generated
ids from rows, then asking for one is a query to it. -/
theorem ExecMode.exec_calls_once {ω : Type} (mode : ExecMode) (db : Database ω) (q : Query)
    (session : Session ω) :
    ∃ f, Executes db q session mode f ∧
      Issue.exec db q mode session = (f.result, f.session) ∧
      Issue.exec db.recorded q mode (session.recorded []) =
        (f.result, f.session.recorded f.calls) ∧
      (∀ inner : Database ω, db = inner.readingIds →
        Issue.exec inner.recorded.readingIds q mode (session.recorded []) =
          (f.result, f.session.recorded (f.calls.map .beneath))) ∧
      (¬mode.Accepts db.dialect q ∨ (∃ e, q.build db.dialect = .error e) →
        f.calls = [] ∧ f.session = session ∧ ∃ e, f.result = .error e ∧
          (¬mode.Accepts db.dialect q → e = refusal q) ∧
          (mode.Accepts db.dialect q → q.build db.dialect = .error e)) ∧
      (∀ b, mode.Accepts db.dialect q → q.build db.dialect = .ok b → f.calls = [mode.call b]) ∧
      (∀ r, f.result = .ok r →
        (r.affectedRows.isSome ↔ mode = .affectedRows) ∧
          (r.generatedId.isSome → mode = .generatedId)) ∧
      ∀ e, f.calls ≠ [] → f.result = .error e →
        ∃ b source, q.build db.dialect = .ok b ∧
          mode.Fails db b (session.issuing db.dialect q.id b) source f.session ∧
          e = .execute q.id source ∧ e.SameKind source := by
  obtain ⟨f, executes, plain, watched⟩ := Issue.exec_ends db q mode session
  refine ⟨f, executes, plain, ?_, ?_, executes.quiet, fun b => executes.calls_eq,
    fun r => executes.fills, fun e called fails => ?_⟩
  · have recorded := watched id db.recorded db.records_recorded
    rwa [List.map_id] at recorded
  · rintro inner rfl
    exact watched .beneath inner.recorded.readingIds inner.records_beneath
  · obtain ⟨b, source, written, failure, rfl⟩ := executes.wrapped called fails
    exact ⟨b, source, written, failure, rfl, Error.execute_sameKind q.id source⟩

end SqlTree
