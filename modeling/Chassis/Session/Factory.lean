-- The session factory: a pool of connections to the database that hands out sessions.
-- It bounds the connections that exist, reuses those that are idle, and once it is
-- closed it hands out none. Every clone of a factory is the same pool.
import Chassis.Logging.Event
import Chassis.Session.Options
import Chassis.Session.Scope
import Chassis.Settings.Basic

namespace Chassis.Session

/-! ## What a pool is made from -/

structure Config where
  url : String
  maxConnections : Nat
  acquireTimeoutMs : Nat
  logStatements : Bool
  deriving DecidableEq, Repr

end Chassis.Session

namespace Chassis.Settings

def database (s : Settings) : Session.Config where
  url := s.databaseUrl
  maxConnections := s.databaseMaxConnections.toNat
  acquireTimeoutMs := s.databaseAcquireTimeoutSecs.toNat * 1000
  logStatements := s.debug

end Chassis.Settings

namespace Chassis.Session

open Logging (Event)

/-! ## The database -/

/-- What becomes of a login: it is accepted or refused, nobody listens, or the network
does not reach that far. -/
inductive Login where
  | accepted
  | refused (state : String) (text : String)
  | silent
  | unreachable (text : String)
  deriving DecidableEq, Repr

/-- What becomes of a query: some rows are affected, the database refuses it, or the
connection is cut. -/
inductive Reply where
  | rows (count : Nat)
  | refused (text : String)
  | cut
  deriving DecidableEq, Repr

inductive Shortage where
  | timedOut
  | closed
  | refused (text : String)
  | unreachable (text : String)
  deriving DecidableEq, Repr

def Shortage.message : Shortage → String
  | timedOut => "pool timed out while waiting for an open connection"
  | closed => "attempted to acquire a connection on a closed pool"
  | refused text => s!"error returned from database: {text}"
  | unreachable text => s!"error communicating with database: {text}"

/-- The states with which a database says that it has no room for now. -/
def passingStates : List String := ["53300", "57P03"]

/-- What an attempt to have a session depends on: what would become of a login, the
milliseconds on the clock by which the pool measures its patience, and the id that is drawn
for the session, if there is one. -/
structure Conditions where
  login : Login
  clock : Nat
  id : String
  deriving DecidableEq, Repr

/-- The seconds that the clock can tell. -/
def lastSecond : Nat := Text.signedLimit

/-- Why a login gave no connection. A login that may be repeated is, until the time is over. -/
def Login.shortage? : Login → Option Shortage
  | accepted => none
  | refused state text => some (if passingStates.contains state then .timedOut else .refused text)
  | silent => some .timedOut
  | unreachable text => some (.unreachable text)

/-! ## The factory -/

/-- A live session: the number by which its holder has it, the id that was drawn for it,
when it was opened, and whether its connection is cut. -/
structure Live where
  number : Nat
  id : String
  openedAt : Nat
  isCut : Bool
  deriving DecidableEq, Repr

/-- The pool: the sessions that are live, the connections that are idle, and how many
logins and sessions there were so far. -/
structure Factory where
  config : Config
  options : Options
  live : List Live
  idle : Nat
  isClosed : Bool
  logins : Nat
  opened : Nat
  deriving DecidableEq, Repr

namespace Factory

def target : String := "yavin::infrastructure::persistence::session_factory"

def sessionTarget : String := "yavin::infrastructure::persistence::db_session"

/-- Where the events of a refused request come from. -/
def requestTarget : String := "yavin::presentation::extractors"

/-- The milliseconds that an event has room for. -/
def shownMilliseconds (ms : Nat) : Nat := ms % (Text.unsignedLimit + 1)

def createdEvent (config : Config) : Event where
  level := .info
  target := target
  message := "PostgreSQL session factory created"
  fields := [
    ("max_connections", .number config.maxConnections),
    ("acquire_timeout_ms", .number (shownMilliseconds config.acquireTimeoutMs))]

def openedEvent (id : String) : Event :=
  ⟨.debug, sessionTarget, "Database session opened", [("session_id", .display id)]⟩

def closedEvent (id : String) (elapsedMs : Nat) : Event where
  level := .debug
  target := sessionTarget
  message := "Database session closed"
  fields := [("session_id", .display id), ("elapsed_ms", .number (shownMilliseconds elapsedMs))]

def shortageEvent (shortage : Shortage) : Event :=
  ⟨.warn, target, "Failed to acquire database session", [("error", .display shortage.message)]⟩

/-- The event of a request that goes without a session. -/
def unavailableEvent (fault : Fault) : Event :=
  ⟨.error, requestTarget, "Database session unavailable", [("error", .display fault.message)]⟩

def poolClosedEvent : Event := ⟨.info, target, "PostgreSQL pool closed", []⟩

/-! ## Making one -/

/-- What becomes of an attempt to make a factory. -/
inductive Making where
  | made (factory : Factory)
  | refused (fault : Fault)
  | crashed

/-- Makes a factory without any connection. The address is looked at first; a pool
without room for a connection is a crash. -/
def make (username : String) (config : Config) : Making × List Event :=
  match (Options.usual username).parse config.url with
  | .error defect => (.refused (.invalidUrl defect.message), [])
  | .ok options =>
    if config.maxConnections = 0 then (.crashed, [])
    else (.made ⟨config, options, [], 0, false, 0, 0⟩, [createdEvent config])

/-! ## Sessions -/

/-- How many connections there are. -/
def size (f : Factory) : Nat := f.live.length + f.idle

inductive Attempt where
  | session (number : Nat)
  | failed (fault : Fault)
  | crashed
  deriving DecidableEq, Repr

/-- The clock can tell when the patience of the pool is over. -/
def hasDeadline (f : Factory) (now : Conditions) : Bool :=
  (now.clock + f.config.acquireTimeoutMs) / 1000 ≤ lastSecond

/-- The connection of a new session: an idle one, or else a new one, if there is room
and time for it. -/
def connect (f : Factory) (login : Login) : Except Shortage Factory :=
  if f.config.acquireTimeoutMs = 0 || f.config.maxConnections ≤ f.live.length then .error .timedOut
  else match f.idle with
    | idle + 1 => .ok { f with idle }
    | 0 =>
      match login.shortage? with
      | none => .ok { f with logins := f.logins + 1 }
      | some shortage => .error shortage

def lack (f : Factory) (shortage : Shortage) : Factory × Attempt × List Event :=
  (f, .failed (.connectionFailed shortage.message), [shortageEvent shortage])

/-- Acquires a session. It is a crash if the clock cannot tell when to give up. -/
def acquire (f : Factory) (now : Conditions) : Factory × Attempt × List Event :=
  if f.isClosed then f.lack .closed
  else if !f.hasDeadline now then (f, .crashed, [])
  else match f.connect now.login with
    | .error shortage => f.lack shortage
    | .ok f =>
      ({ f with live := ⟨f.opened, now.id, now.clock, false⟩ :: f.live, opened := f.opened + 1 },
        .session f.opened, [openedEvent now.id])

/-- Acquires a session for a request, which fails without one. -/
def acquireForRequest (f : Factory) (now : Conditions) : Factory × Attempt × List Event :=
  match f.acquire now with
  | (f, .failed fault, events) => (f, .failed fault, events ++ [unavailableEvent fault])
  | other => other

/-- Ends a session at a time. Its connection is idle afterwards, unless it was cut or the
pool is closed. -/
def release (f : Factory) (number clock : Nat) : Factory × List Event :=
  match f.live.find? (·.number == number) with
  | none => (f, [])
  | some session =>
    let live := f.live.filter (·.number != number)
    let idle := if session.isCut || f.isClosed then f.idle else f.idle + 1
    ({ f with live, idle }, [closedEvent session.id (clock - session.openedAt)])

/-- What a database answers on a connection that is cut. -/
def lost : Fault := .queryFailed "connection lost"

/-- A query in a session. A connection that is cut stays cut. -/
def query (f : Factory) (number : Nat) (reply : Reply) : Factory × Except Fault Nat :=
  if f.live.any fun session => session.number == number && session.isCut then (f, .error lost)
  else match reply with
    | .rows count => (f, .ok count)
    | .refused text => (f, .error (.queryFailed text))
    | .cut =>
      let live := f.live.map fun session =>
        if session.number = number then { session with isCut := true } else session
      ({ f with live }, .error lost)

/-! ## Work -/

/-- One act of some work with a session: a query with its reply, a fault, an error of
the work's own, or a crash. -/
inductive Act where
  | query (reply : Reply)
  | fail (fault : Fault)
  | reject (text : String)
  | crash

/-- Work in a session, given the rows that its queries affected so far. Everything but
a query that succeeds ends it. -/
def perform (f : Factory) (number : Nat) (rows : List Nat) : List Act → Factory × Outcome
  | [] => (f, .returned (.list none (rows.map fun n => .plain (.unsigned n))))
  | .query reply :: rest =>
    match f.query number reply with
    | (f, .ok count) => f.perform number (rows ++ [count]) rest
    | (f, .error fault) => (f, .failed fault)
  | .fail fault :: _ => (f, .failed fault)
  | .reject text :: _ => (f, .rejected text)
  | .crash :: _ => (f, .crashed)

/-- Work with a session of its own, which is released at a time, however the work ends. -/
def withSession (f : Factory) (now : Conditions) (acts : List Act) (finish : Nat) :
    Factory × Outcome × List Event :=
  match f.acquire now with
  | (f, .failed fault, events) => (f, .failed fault, events)
  | (f, .crashed, events) => (f, .crashed, events)
  | (f, .session number, events) =>
    let (f, outcome) := f.perform number [] acts
    let (f, more) := f.release number finish
    (f, outcome, events ++ more)

/-! ## Closing -/

/-- Closes the pool: no session can be had from now on, and idle connections go at once. -/
def beginClose (f : Factory) : Factory := { f with isClosed := true, idle := 0 }

/-- Whether the closing pool waits for nobody. -/
def isDrained (f : Factory) : Bool := f.live.isEmpty

/-- Closes the pool. That ends, and says so, when no session is live. -/
def close (f : Factory) : Factory × Bool × List Event :=
  let f := f.beginClose
  if f.isDrained then (f, true, [poolClosedEvent]) else (f, false, [])

end Factory

end Chassis.Session
