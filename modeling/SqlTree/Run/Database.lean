import SqlTree.Error
import SqlTree.Log.Event
import SqlTree.Log.ParamText
import SqlTree.Log.Truncation
import SqlTree.Renderer

/-!
Databases: a backend that answers statements, and optionally an observer in front of it that logs
them, limits their time and reports slow ones. `ω` is the state behind the backend.
-/

namespace SqlTree

/-- What a backend answers, and when: it is at work first, where it cannot be interrupted, and then
the answer is waited for. -/
structure Reply (α : Type) where
  result : Except Error α
  busy : Span
  wait : Span

def Reply.bind {α β : Type} (r : Reply α) (f : α → Except Error β) : Reply β :=
  { r with result := r.result.bind f }

structure Backend (ω : Type) where
  dialect : Dialect
  query : Built → StateM ω (Reply (List Record))
  execute : Built → StateM ω (Reply Nat)
  generatedId : Built → StateM ω (Reply (Option Int64))

/-- The id is the first column of the first row; no row and NULL mean none. -/
def Record.generatedId (records : List Record) : Except Error (Option Int64) :=
  match records.head?.bind List.head? with
  | none | some .null => .ok none
  | some (.int n) => .ok (some n)
  | some other =>
      .error (.decode "RETURNING" (.value ("expected an integer id, got " ++ other.kindName)))

/-- Reads a generated id by running the statement as a query. -/
def Backend.idFromRows {ω : Type} (query : Built → StateM ω (Reply (List Record))) (b : Built) :
    StateM ω (Reply (Option Int64)) := do
  let reply ← query b
  pure (reply.bind Record.generatedId)

/-- The timer that limits waiting and the clock that measures a statement as a whole. An answer that
is there at once is never late, however long the work took; nor is one that is there before the
limit, and one is that is waited for beyond the limit by the timer's resolution of a millisecond. The
clock covers the work at least: where time is paused, waiting takes none. -/
structure Timer where
  late : (limit busy wait : Span) → Bool
  elapsed : (busy wait : Span) → Span
  atOnce : ∀ limit busy, late limit busy ⟨0⟩ = false
  inTime : ∀ {limit busy wait}, busy.nanos + wait.nanos < limit.nanos → late limit busy wait = false
  overdue : ∀ {limit busy wait}, limit.nanos + 1000000 ≤ wait.nanos → late limit busy wait = true
  covers : ∀ busy wait, busy.nanos ≤ (elapsed busy wait).nanos

/-- A timer that counts started milliseconds beside a clock that takes a moment to be read. -/
def Timer.milliseconds : Timer where
  late limit _ wait := (limit.nanos + 999999) / 1000000 < (wait.nanos + 999999) / 1000000
  elapsed busy wait := ⟨busy.nanos + wait.nanos + 1⟩
  atOnce limit _ := by simp
  inTime := by
    intro limit busy wait early
    simp only [decide_eq_false_iff_not]
    omega
  overdue := by
    intro limit busy wait late
    simp only [decide_eq_true_eq]
    omega
  covers busy wait := Nat.le_succ_of_le (Nat.le_add_right _ _)

structure Observer where
  timer : Timer
  timeout : Option Span
  slow : Option Span
  level : Level
  maxLength : Option Nat
  showArgs : Bool

def Observer.standard (timer : Timer) : Observer := ⟨timer, none, none, .debug, some 1000, false⟩

structure Database (ω : Type) where
  backend : Backend ω
  observer : Option Observer

structure Session (ω : Type) where
  world : ω
  events : List Event

namespace Session

variable {ω : Type}

def emit (e : Event) : StateM (Session ω) Unit :=
  modify fun s => { s with events := s.events ++ [e] }

def send {α : Type} (action : StateM ω (Reply α)) : StateM (Session ω) (Reply α) := fun s =>
  let (reply, world) := action s.world
  (reply, { s with world := world })

end Session

namespace Observer

def statementEvent (o : Observer) (d : Dialect) (b : Built) : Event :=
  { target := Event.observing
    level := o.level
    data := [("dialect", .text d.name), ("sql", .text (Log.truncated o.maxLength b.sql)),
      if o.showArgs then ("params", .text (Value.loggedList b.args))
      else ("param_count", .count b.args.length), ("message", .text "sql")] }

/-- The time that has passed is not part of the event. -/
def slowEvent (o : Observer) (limit : Span) (b : Built) : Event :=
  { target := Event.observing
    level := .warn
    data := [("threshold_ms", .count limit.millis),
      ("sql", .text (Log.truncated o.maxLength b.sql)), ("message", .text "slow query")] }

def failureEvent (e : Error) : Event :=
  { target := Event.observing
    level := .debug
    data := [("error", .text e.text), ("message", .text "statement failed")] }

/-- The limit, if the answer comes later. -/
def isLate {α : Type} (o : Observer) (r : Reply α) : Option Span :=
  o.timeout.filter fun limit => o.timer.late limit r.busy r.wait

/-- A late answer is a timeout; it is waited for no longer than the limit. -/
def limited {α : Type} (o : Observer) (r : Reply α) : Reply α :=
  match o.isLate r with
  | some limit => ⟨.error (.timeout limit), r.busy, limit⟩
  | none => r

/-- The threshold, if all the time that has passed is longer. -/
def isSlow {α : Type} (o : Observer) (r : Reply α) : Option Span :=
  o.slow.filter fun limit => limit.nanos < (o.timer.elapsed r.busy r.wait).nanos

section Timed

variable {α : Type} {o : Observer} {r : Reply α} {limit : Span}

theorem isLate_atOnce (atOnce : r.wait = ⟨0⟩) : o.isLate r = none := by
  simp [isLate, atOnce, o.timer.atOnce]

theorem limited_inTime
    (inTime : ∀ limit ∈ o.timeout, r.busy.nanos + r.wait.nanos < limit.nanos) :
    o.limited r = r := by
  have early : o.isLate r = none :=
    Option.filter_eq_none_iff.mpr fun limit there => by simp [o.timer.inTime (inTime limit there)]
  rw [limited, early]

theorem limited_overdue (timeout : o.timeout = some limit)
    (overdue : limit.nanos + 1000000 ≤ r.wait.nanos) :
    (o.limited r).result = .error (.timeout limit) := by
  have late : o.isLate r = some limit := by
    simp [isLate, timeout, o.timer.overdue overdue]
  rw [limited, late]

theorem isSlow_of_busy (slow : o.slow = some limit) (busy : limit.nanos < r.busy.nanos) :
    o.isSlow r = some limit := by
  have passed := Nat.lt_of_lt_of_le busy (o.timer.covers r.busy r.wait)
  simp [isSlow, slow, passed]

end Timed

def watch {ω α : Type} (o : Observer) (d : Dialect) (b : Built) (action : StateM ω (Reply α)) :
    StateM (Session ω) (Except Error α) := do
  Session.emit (o.statementEvent d b)
  let reply := o.limited (← Session.send action)
  if let some limit := o.isSlow reply then Session.emit (o.slowEvent limit b)
  if let .error e := reply.result then Session.emit (failureEvent e)
  pure reply.result

end Observer

namespace Database

variable {ω : Type}

def dialect (db : Database ω) : Dialect := db.backend.dialect

def run {α : Type} (db : Database ω) (b : Built) (action : StateM ω (Reply α)) :
    StateM (Session ω) (Except Error α) :=
  match db.observer with
  | some o => o.watch db.dialect b action
  | none => do
      let reply ← Session.send action
      pure reply.result

def query (db : Database ω) (b : Built) : StateM (Session ω) (Except Error (List Record)) :=
  db.run b (db.backend.query b)

def execute (db : Database ω) (b : Built) : StateM (Session ω) (Except Error Nat) :=
  db.run b (db.backend.execute b)

def generatedId (db : Database ω) (b : Built) : StateM (Session ω) (Except Error (Option Int64)) :=
  db.run b (db.backend.generatedId b)

end Database

end SqlTree
