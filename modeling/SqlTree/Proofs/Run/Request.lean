import SqlTree.Proofs.Run.Executing

namespace SqlTree

abbrev Mapping (σ α : Type) := ExceptT Error (StateM σ) α

/-- Something to ask a database for, with what is made of the answer. -/
inductive Request (σ β : Type) where
  | query (id : StatementId) (b : Built) (present : List Record → Mapping σ β)
  | execute (id : StatementId) (b : Built) (present : Nat → Mapping σ β)
  | generatedId (id : StatementId) (b : Built) (present : Option Int64 → Mapping σ β)

inductive Entry (σ : Type) : Type → Type 1 where
  | exec (mode : ExecMode) (q : Query) : Entry σ ExecResult
  | hasRows (s : Select) : Entry σ Bool
  | fetch {α β : Type} (mode : FetchMode α β) (q : Query) (mapper : Mapper σ α) : Entry σ β

/-! ### Steps apart from a session -/

namespace Fetching

variable {ω σ α β : Type}

def apart (m : Mapping σ α) : Fetching ω σ α := fun (state : Session ω × σ) =>
  let (result, next) := m.run state.2
  (result, state.1, next)

theorem apart_run (m : Mapping σ α) (session : Session ω) (own : σ) :
    (apart m).run (session, own) = ((m.run own).1, session, (m.run own).2) := rfl

@[simp] theorem apart_pure (a : α) : apart (pure a) = (pure a : Fetching ω σ α) := rfl

@[simp] theorem apart_throw (e : Error) : apart (throw e) = (throw e : Fetching ω σ α) := rfl

@[simp] theorem apart_lift (x : Except Error α) :
    apart (liftM x) = (liftM x : Fetching ω σ α) := by
  cases x <;> rfl

@[simp] theorem apart_bind (m : Mapping σ α) (f : α → Mapping σ β) :
    apart (m >>= f) = (apart m >>= fun a => apart (f a) : Fetching ω σ β) := by
  funext ⟨session, own⟩
  have together : (m >>= f).run own = ExceptT.bindCont f (m.run own).1 (m.run own).2 := rfl
  have after : (apart m >>= fun a => apart (f a) : Fetching ω σ β) (session, own) =
      ExceptT.bindCont (fun a => apart (f a)) (m.run own).1 (session, (m.run own).2) := rfl
  rw [after]
  unfold apart
  rw [together]
  rcases m.run own with ⟨e | a, next⟩ <;> rfl

end Fetching

namespace Mapper

variable {ω σ α : Type}

def onRow (mapper : Mapper σ α) (row : Cursor) : Mapping σ (α × Cursor) := fun (own : σ) =>
  let (result, cursor, next) := mapper.run (row, own)
  (result.map (·, cursor), next)

def completes (mapper : Mapper σ α) (q : Query) : Mapping σ Query := do
  if q.projection.isEmpty then
    let (_, cursor) ← mapper.onRow .register
    if cursor.registered.isEmpty then
      throw (Fault.malformed (.statement q.id) .nothingRead).toError
    pure (q.withProjection cursor.registered)
  else pure q

def onRecords (mapper : Mapper σ α) (columns : List Field) : List Record → Mapping σ (List α)
  | [] => pure []
  | record :: rest => do
      let (mapped, _) ← mapper.onRow (.read columns record)
      let others ← mapper.onRecords columns rest
      pure (mapped :: others)

theorem registered_eq (q : Query) (mapper : Mapper σ α) :
    Fetching.registered q mapper = (.apart (mapper.completes q) : Fetching ω σ Query) := by
  unfold Fetching.registered completes
  split
  · rw [Fetching.apart_bind]
    refine congrArg _ (funext fun read => ?_)
    dsimp only
    split <;> rfl
  · rfl

theorem mapRows_eq (columns : List Field) (mapper : Mapper σ α) (records : List Record) :
    Fetching.mapRows columns mapper records =
      (.apart (mapper.onRecords columns records) : Fetching ω σ (List α)) := by
  induction records with
  | nil => rfl
  | cons record rest ih =>
      rw [Fetching.mapRows, onRecords, ih, Fetching.apart_bind]
      refine congrArg _ (funext fun read => ?_)
      rw [Fetching.apart_bind]
      rfl

end Mapper

def FetchMode.limit {α β : Type} : FetchMode α β → Option Nat
  | each | all => none
  | one | optional => some 1

theorem Fetching.fetch_eq_rows {ω σ α β : Type} (db : Database ω) (mode : FetchMode α β) (q : Query)
    (mapper : Mapper σ α) :
    mode.fetch db q mapper =
      Fetching.rows db q mode.limit mapper >>= fun outputs => liftM (mode.answer q.id outputs) := by
  cases mode with
  | each => rfl
  | all => exact (bind_pure _).symm
  | one =>
      rw [FetchMode.fetch, Fetching.one, Fetching.optional, bind_assoc]
      refine congrArg _ (funext fun outputs => ?_)
      rw [pure_bind]
      rcases outputs with _ | ⟨output, rest⟩ <;> rfl
  | optional => rfl

/-! ### What is asked for -/

/-- An execution asks for what the answer of its mode is made of. -/
def ExecMode.request {σ : Type} (id : StatementId) (b : Built) : ExecMode → Request σ ExecResult
  | nothing => .execute id b fun _ => pure ⟨none, none⟩
  | affectedRows => .execute id b fun n => pure ⟨some n, none⟩
  | generatedId => .generatedId id b fun id => pure ⟨none, id⟩

instance (mode : ExecMode) (d : Dialect) (q : Query) : Decidable (mode.Accepts d q) :=
  inferInstanceAs (Decidable (_ → _ → _))

namespace Request

variable {ω σ β γ : Type}

def call : Request σ β → Backend.Call
  | query _ b _ => .query b
  | execute _ b _ => .execute b
  | generatedId _ b _ => .generatedId b

/-- Issues something and presents the answer. -/
def issued (db : Database ω) (id : StatementId) (b : Built)
    (send : StateM (Session ω) (Except Error γ)) (present : γ → Mapping σ β) : Fetching ω σ β := do
  let answer ← Fetching.inSession (Issue.run db id b send)
  .apart (present answer)

def perform (db : Database ω) : Request σ β → Fetching ω σ β
  | query id b present => issued db id b (db.query b) present
  | execute id b present => issued db id b (db.execute b) present
  | generatedId id b present => issued db id b (db.generatedId b) present

theorem run_issued (db : Database ω) (id : StatementId) (b : Built)
    (send : StateM (Session ω) (Except Error γ)) (present : γ → Mapping σ β) (session : Session ω)
    (own : σ) :
    (issued db id b send present).run (session, own) =
      match (Issue.run db id b send session).1 with
      | .error e => (.error e, (Issue.run db id b send session).2, own)
      | .ok a => (((present a).run own).1, (Issue.run db id b send session).2,
          ((present a).run own).2) := by
  have after : (issued db id b send present).run (session, own) =
      (ExceptT.bindCont (fun answer => Fetching.apart (present answer))
        (Issue.run db id b send session).1).run ((Issue.run db id b send session).2, own) := rfl
  rw [after]
  cases (Issue.run db id b send session).1 <;> rfl

/-- What is made of an answer within the session may as well be made of it later. -/
theorem inSession_eq_issued (db : Database ω) (id : StatementId) (b : Built)
    (send : StateM (Session ω) (Except Error γ)) {made : Except Error γ → Except Error β}
    {present : γ → Mapping σ β} (failed : ∀ e, made (.error e) = .error e)
    (answered : ∀ a, present a = liftM (made (.ok a))) :
    Fetching.inSession (Issue.run db id b send >>= fun answer => pure (made answer)) =
      issued db id b send present := by
  funext ⟨session, own⟩
  have within : Fetching.inSession (Issue.run db id b send >>= fun answer =>
      pure (made answer)) (session, own) =
      (made (Issue.run db id b send session).1, (Issue.run db id b send session).2, own) := rfl
  rw [within]
  refine Eq.trans ?_ (run_issued db id b send present session own).symm
  rcases Issue.run db id b send session with ⟨e | a, after⟩
  · rw [failed]
  · dsimp only
    rw [answered]
    cases made (.ok a) <;> rfl

theorem session_issued (db : Database ω) (id : StatementId) (b : Built)
    (send : StateM (Session ω) (Except Error γ)) (present : γ → Mapping σ β) (session : Session ω)
    (own : σ) :
    ((issued db id b send present).run (session, own)).2.1 =
      (Issue.run db id b send session).2 := by
  rw [run_issued]
  split <;> rfl

theorem calls_issued (db : Database ω) (id : StatementId) (b : Built) {calls : List Backend.Call}
    {watchedSend : StateM (Session (ω × List Backend.Call)) (Except Error γ)}
    {send : StateM (Session ω) (Except Error γ)}
    (records : Session.Records calls watchedSend send) (present : γ → Mapping σ β)
    (session : Session ω) (own : σ) :
    ((issued db.recorded id b watchedSend present).run
      (session.recorded [], own)).2.1.world.2 = calls := by
  rw [session_issued, Issue.run_recorded db.dialect_recorded id b records]
  rfl

theorem calls_perform (db : Database ω) (request : Request σ β) (session : Session ω) (own : σ) :
    ((request.perform db.recorded).run (session.recorded [], own)).2.1.world.2 =
      [request.call] := by
  cases request with
  | query id b present =>
      exact calls_issued db id b (db.run_recorded b (.query b) _) present session own
  | execute id b present =>
      exact calls_issued db id b (db.run_recorded b (.execute b) _) present session own
  | generatedId id b present =>
      exact calls_issued db id b (db.run_recorded b (.generatedId b) _) present session own

end Request

namespace Entry

variable {ω σ α β : Type}

def run (db : Database ω) : Entry σ β → Fetching ω σ β
  | exec mode q => .inSession (Issue.exec db q mode)
  | hasRows s => .inSession (Issue.hasRows db s)
  | fetch mode q mapper => mode.fetch db q mapper

def request (d : Dialect) : Entry σ β → Mapping σ (Request σ β)
  | exec mode q => do
      if mode.Accepts d q then
        let b ← q.build d
        pure (mode.request q.id b)
      else throw (ExecMode.refusal q)
  | hasRows s => do
      let b ← (s.question.build d).mapError Fault.toError
      pure (.query s.id b fun records => liftM (Issue.existsAnswer records))
  | fetch mode q mapper => do
      let full ← mapper.completes q
      let b ← full.build d
      pure (.query full.id b fun records => do
        let outputs ← mapper.onRecords full.projection (mode.mapped records)
        liftM (mode.answer q.id outputs))

theorem run_exec (db : Database ω) (mode : ExecMode) (q : Query) :
    (exec mode q : Entry σ ExecResult).run db =
      .apart ((exec mode q).request db.dialect) >>= Request.perform db := by
  rw [run, request]
  by_cases accepted : mode.Accepts db.dialect q
  · rw [if_pos accepted]
    cases written : q.build db.dialect with
    | error e =>
        rw [Issue.exec_unwritten accepted written]
        rfl
    | ok b =>
        have performed : (.inSession (mode.send db q.id b) : Fetching ω σ ExecResult) =
            (mode.request q.id b).perform db := by
          cases mode with
          | nothing | affectedRows | generatedId =>
              exact Request.inSession_eq_issued db q.id b _ (fun _ => rfl) (fun _ => rfl)
        rw [Issue.exec_written accepted written, performed]
        rfl
  · obtain ⟨rfl, numbered, rowless⟩ := ExecMode.not_accepts.mp accepted
    rw [if_neg accepted, Issue.exec_refused numbered rowless]
    rfl

theorem run_hasRows (db : Database ω) (s : Select) :
    (hasRows s : Entry σ Bool).run db =
      .apart ((hasRows s).request db.dialect) >>= Request.perform db := by
  rw [run, request, Issue.hasRows]
  cases (s.question.build db.dialect).mapError Fault.toError with
  | error e => rfl
  | ok b => exact Request.inSession_eq_issued db s.id b _ (fun _ => rfl) (fun _ => rfl)

theorem run_fetch (db : Database ω) (mode : FetchMode α β) (q : Query) (mapper : Mapper σ α) :
    (fetch mode q mapper).run db =
      .apart ((fetch mode q mapper).request db.dialect) >>= Request.perform db := by
  rw [run, request, Fetching.fetch_eq_rows, Fetching.rows, Mapper.registered_eq]
  simp only [bind_assoc, Fetching.apart_bind, Fetching.apart_lift, Fetching.apart_pure, pure_bind,
    Request.perform, Request.issued, Mapper.mapRows_eq, Issue.query]
  cases mode <;> rfl

theorem run_eq (db : Database ω) (e : Entry σ β) :
    e.run db = .apart (e.request db.dialect) >>= Request.perform db := by
  cases e with
  | exec mode q => exact run_exec db mode q
  | hasRows s => exact run_hasRows db s
  | fetch mode q mapper => exact run_fetch db mode q mapper

variable {db : Database ω} {e : Entry σ β} {own next : σ}

theorem run_refused {error : Error}
    (refused : (e.request db.dialect).run own = (.error error, next)) (session : Session ω) :
    (e.run db).run (session, own) = (.error error, session, next) := by
  rw [run_eq]
  apply Steps.bind_error
  rw [Fetching.apart_run, refused]

theorem run_asked (db : Database ω) {request : Request σ β}
    (asked : (e.request db.dialect).run own = (.ok request, next)) (session : Session ω) :
    (e.run db).run (session, own) = (request.perform db).run (session, next) := by
  rw [run_eq]
  apply Steps.bind_ok
  rw [Fetching.apart_run, asked]

def calls (e : Entry σ β) (db : Database ω) (session : Session ω) (own : σ) : List Backend.Call :=
  ((e.run db.recorded).run (session.recorded [], own)).2.1.world.2

theorem calls_asked {request : Request σ β}
    (asked : (e.request db.dialect).run own = (.ok request, next)) (session : Session ω) :
    e.calls db session own = [request.call] := by
  unfold calls
  rw [run_asked db.recorded asked]
  exact request.calls_perform db session next

end Entry

end SqlTree
