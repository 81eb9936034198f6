-- The life of the server: it says that it starts, serves until it is told to stop, waits
-- for the connections that are open, says that it stops, and closes the pool.
import Chassis.Http.Site
import Chassis.Session.Factory

namespace Chassis.Http

open Logging (Event)
open Session (Conditions Factory)

/-! ## Events -/

/-- Where the events of the server come from. -/
def serverTarget : String := "yavin::presentation::server"

def startingEvent (settings : Settings) (address : String) : Event :=
  ⟨.info, serverTarget, s!"Starting {settings.appName} v{settings.appVersion}",
    [("addr", .display address)]⟩

def stoppingEvent : Event := ⟨.info, serverTarget, "Shutting down application", []⟩

/-! ## The server -/

/-- How far the server has come. -/
inductive Phase where
  | serving
  | draining
  | closing
  | stopped
  deriving DecidableEq, Repr

/-- A request under way: its number, the number of its connection, and what it asks. -/
structure Exchange where
  id : Nat
  connection : Nat
  request : Request
  deriving DecidableEq, Repr

/-- The server: its site, the pool, the connections that are open, the requests under
way, and how many connections and requests there were so far. -/
structure Server where
  site : Site
  factory : Factory
  phase : Phase
  connections : List Nat
  underWay : List Exchange
  accepted : Nat
  asked : Nat
  deriving DecidableEq, Repr

/-- What can happen to the server. A connection is opened, requests come in on it and are
answered, and it is closed, or its peer hangs up in the middle. A request acquires a
session, and a session is released. The server is told to stop, and it looks whether it
can go on stopping. -/
inductive Move where
  | connect
  | ask (connection : Nat) (request : Request)
  | answer (id : Nat)
  | leave (connection : Nat)
  | hangUp (connection : Nat)
  | acquire (id : Nat) (now : Conditions)
  | release (session clock : Nat)
  | shutdown
  | settle
  deriving DecidableEq, Repr

inductive Sign where
  | event (event : Event)
  | accepted (connection : Nat)
  | refused
  | started (id : Nat) (request : Request)
  | answered (id : Nat) (response : Response)
  | dropped (id : Nat)
  | attempted (id : Nat) (attempt : Factory.Attempt)
  | closing
  | returned
  deriving DecidableEq, Repr

namespace Server

/-- The server at an address when it starts, and what is seen first. -/
def opened (settings : Settings) (factory : Factory) (address : String) : Server × List Sign :=
  (⟨settings.site, factory, .serving, [], [], 0, 0⟩,
    .event (startingEvent settings address) :: settings.siteEvents.map .event)

/-- Starts serving, if the listener knows its own address. -/
def start (settings : Settings) (factory : Factory) (address : Option String) :
    Option (Server × List Sign) :=
  address.map (opened settings factory)

/-! ## Connections and requests -/

/-- A connection is opened, unless the server has been told to stop. -/
def connect (server : Server) : Server × List Sign :=
  if server.phase = .serving then
    ({ server with
        connections := server.accepted :: server.connections, accepted := server.accepted + 1 },
      [.accepted server.accepted])
  else (server, [.refused])

/-- A request comes in on an open connection. -/
def ask (server : Server) (connection : Nat) (request : Request) : Server × List Sign :=
  if connection ∈ server.connections then
    ({ server with
        underWay := ⟨server.asked, connection, request⟩ :: server.underWay,
        asked := server.asked + 1 },
      [.started server.asked request])
  else (server, [])

/-- The request of a number, if it is under way. -/
def exchange? (server : Server) (id : Nat) : Option Exchange := server.underWay.find? (·.id == id)

/-- A request under way is answered. -/
def answer (server : Server) (id : Nat) : Server × List Sign :=
  match server.exchange? id with
  | none => (server, [])
  | some exchange =>
    ({ server with underWay := server.underWay.filter (·.id != id) },
      [.answered id (server.site.respond exchange.request)])

/-- A connection is closed, unless a request is under way on it. -/
def leave (server : Server) (connection : Nat) : Server × List Sign :=
  if server.underWay.any (·.connection == connection) then (server, [])
  else ({ server with connections := server.connections.filter (· != connection) }, [])

/-- The peer of a connection is gone, and with it the requests that are under way on it. -/
def hangUp (server : Server) (connection : Nat) : Server × List Sign :=
  ({ server with
      connections := server.connections.filter (· != connection)
      underWay := server.underWay.filter (·.connection != connection) },
    (server.underWay.filter (·.connection == connection)).map fun exchange => .dropped exchange.id)

/-! ## Sessions -/

/-- A request under way asks the pool for a session. -/
def acquire (server : Server) (id : Nat) (now : Conditions) : Server × List Sign :=
  match server.exchange? id with
  | none => (server, [])
  | some _ =>
    let (factory, attempt, events) := server.factory.acquireForRequest now
    ({ server with factory }, events.map .event ++ [.attempted id attempt])

/-- A session is released. -/
def release (server : Server) (session clock : Nat) : Server × List Sign :=
  let (factory, events) := server.factory.release session clock
  ({ server with factory }, events.map .event)

/-! ## Stopping -/

/-- The server is told to stop. -/
def shutdown (server : Server) : Server × List Sign :=
  (if server.phase = .serving then { server with phase := .draining } else server, [])

/-- The next phase of stopping, when nothing holds it back: first the connections that are
open, then the sessions that are live. -/
def settle (server : Server) : Server × List Sign :=
  match server.phase with
  | .draining =>
    if server.connections.isEmpty then
      ({ server with phase := .closing, factory := server.factory.beginClose },
        [.event stoppingEvent, .closing])
    else (server, [])
  | .closing =>
    if server.factory.isDrained then
      ({ server with phase := .stopped }, [.event Factory.poolClosedEvent, .returned])
    else (server, [])
  | _ => (server, [])

/-! ## Moves -/

def step (server : Server) : Move → Server × List Sign
  | .connect => server.connect
  | .ask connection request => server.ask connection request
  | .answer id => server.answer id
  | .leave connection => server.leave connection
  | .hangUp connection => server.hangUp connection
  | .acquire id now => server.acquire id now
  | .release session clock => server.release session clock
  | .shutdown => server.shutdown
  | .settle => server.settle

/-- Moves one after another. -/
def steps (server : Server) : List Move → Server × List Sign
  | [] => (server, [])
  | move :: rest =>
    let (server, signs) := server.step move
    let (server, more) := server.steps rest
    (server, signs ++ more)

end Server

/-- Serves through some moves, if the listener can tell its address. -/
def serve {ε : Type} (settings : Settings) (factory : Factory) (address : Except ε String)
    (moves : List Move) :
    Except ε (Server × List Sign) := do
  let (server, signs) := Server.opened settings factory (← address)
  let (server, more) := server.steps moves
  return (server, signs ++ more)

/-- The events among what is seen. -/
def Sign.events (signs : List Sign) : List Event :=
  signs.filterMap fun sign =>
    match sign with
    | .event e => some e
    | _ => none

end Chassis.Http
