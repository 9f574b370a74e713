import FixedReply.Server.Network

namespace FixedReply

open Http (Request)

inductive Workers
  | whole (n : Int)
  | fractional
  deriving DecidableEq, Repr

structure Settings where
  host : String := "127.0.0.1"
  port : Int := 0
  workers : Workers := .whole 1
  terms : Terms := {}
  deriving DecidableEq, Repr

inductive ServerState
  | unstarted
  | listening
  | serving
  | failed
  deriving DecidableEq, Repr

def ServerState.name : ServerState → String
  | unstarted => "unstarted"
  | listening => "listening"
  | serving => "serving"
  | failed => "failed"

structure Listener where
  port : Int
  isOpen : Bool := true
  deriving DecidableEq, Repr

structure Server where
  settings : Settings
  handler : Handler
  state : ServerState := .unstarted
  listener : Option Listener := none
  tokens : Option Nat := none

inductive Finish
  | done
  | cancelled
  | raised (what : Failures)
  deriving Repr

structure Report where
  finish : Finish := .done
  started : Option Int := none
  attempts : List (String × Int) := []
  records : List Record := []
  calls : List (Time × Request) := []
  peak : Nat := 0
  visits : List Visit := []

namespace Server

def record (level : Level) (message : String) : Record :=
  { level, source := Connection.logSource, message }

def misuse (text : String) : Failures := .one (.runtime text)

/-- The bound port, which is another than the one asked for when that was zero. -/
def port (server : Server) : Except Failures Int :=
  match server.listener with
  | none => .error (misuse "HttpServer is not bound")
  | some listener => .ok listener.port

def isSystemFailure : Failures → Bool
  | .one f => f.isSystem
  | .group _ => false

/-- Tries to get hold of the port. Only a failure of the system is final. -/
def bind (server : Server) (network : Network) : Report × Server :=
  if server.state ≠ .unstarted then
    ({ finish := .raised (misuse s!"cannot bind a server in state {server.state.name}") }, server)
  else
    let attempts := [(server.settings.host, server.settings.port)]
    match network.bindFailure with
    | some what =>
      ({ finish := .raised what, attempts },
        if isSystemFailure what then { server with state := .failed } else server)
    | none =>
      let port := if server.settings.port = 0 then network.freePort else server.settings.port
      ({ attempts }, { server with state := .listening, listener := some { port } })

def acceptRecord (host : String) (port : Int) (f : Failure) : Record :=
  record .error s!"accept tcp {host}:{port}: {f.text}"

/-- The failures that end accepting are parted into those of the system, which are caught, and the
others, which are passed on. -/
def settle (what : Failures) : Option Failures × Option Failures :=
  (what.only Failure.isSystem, what.only (!·.isSystem))

def noTokens (workers : Workers) : Failure :=
  match workers with
  | .whole _ => .value "total_tokens must be >= 0"
  | .fractional => .mistyped "total_tokens must be an int or math.inf"

/-- Goes from listening to serving, with the tokens that calls take. With a number of workers that cannot
be had it goes on listening. -/
def begin (server : Server) : Except Failures (Nat × Server) :=
  if server.state ≠ .listening then
    .error (misuse s!"cannot serve from state {server.state.name}")
  else
    match server.settings.workers with
    | .whole (.ofNat workers) => .ok (workers, { server with state := .serving, tokens := some workers })
    | workers => .error (.one (noTokens workers))

def conclude (server : Server) (listener : Listener) (session : Session) : Report × Server :=
  let report : Report := {
    records := session.records, calls := session.calls
    peak := session.traffic.peak, visits := session.visits }
  let served := { server with listener := some { listener with isOpen := false } }
  match session.ending with
  | .served => (report, served)
  | .cancelled => ({ report with finish := .cancelled }, served)
  | .failed what =>
    let (caught, others) := settle what
    ({ report with
        finish := others.elim .done .raised
        records := report.records ++ (caught.elim [] Failures.leaves).map
          (acceptRecord server.settings.host listener.port) },
      if caught.isNone then served else { served with state := .failed })

/-- Serves clients until all are done, accepting fails or everything is cancelled. -/
def serve (server : Server) (network : Network) : Report × Server :=
  match server.begin with
  | .error what => ({ finish := .raised what }, server)
  | .ok (workers, server) =>
    match server.listener with
    | none => ({ finish := .raised (misuse "HttpServer is not bound") }, server)
    | some listener =>
      server.conclude listener (network.serve workers server.settings.terms server.handler)

/-- Binds and serves. That the system refuses the port is logged and not raised. -/
def run (server : Server) (network : Network) : Report × Server :=
  let (bound, server) := server.bind network
  match bound.finish, server.listener with
  | .raised (.one (.system fault)), _ =>
    ({ bound with
        finish := .done
        records := [record .error
          s!"listen tcp {server.settings.host}:{server.settings.port}: {fault.text}"] },
      server)
  | .done, some listener =>
    let (report, server) := server.serve network
    ({ report with
        started := some listener.port
        attempts := bound.attempts
        records :=
          record .info s!"Listening on http://{server.settings.host}:{listener.port}" ::
            report.records },
      server)
  | _, _ => (bound, server)

end Server

end FixedReply
