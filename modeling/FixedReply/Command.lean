import FixedReply.Command.Options
import FixedReply.Config
import FixedReply.Service

namespace FixedReply

inductive Deed
  | print (text : String)
  | resizeThreads (size : Int)
  | bind (host : String) (port : Int)
  deriving DecidableEq, Repr

inductive Exit
  | returned (status : Nat)
  | quit (status : Nat)
  | finished
  | raised (what : Failures)
  deriving Repr

/-- A complaint about the command line is not a record. -/
structure Outcome where
  exit : Exit
  deeds : List Deed := []
  complaint : String := ""
  records : List Record := []
  logging : Bool := true
  report : Report := {}
  server : Option Server := none

namespace Outcome

def causeLine (what : Failures) : String :=
  match what with
  | .one f => s!"{f.kind}: {f.text}\n"
  | .group _ => s!"{what.kind}: \n"

def written (line : String) (r : Record) : String :=
  line ++ "\n" ++ (r.cause.map causeLine).getD ""

/-- The records as they are written when logging has been set up: from the level of information on,
each with a time, its level and its source. -/
def logText (stamp : String) (records : List Record) : String :=
  let shown := records.filter fun r => Level.info.severity ≤ r.level.severity
  String.join (shown.map fun r =>
    written s!"{stamp} {r.level.name} {r.source}: {r.message}" r)

/-- The records as they are written otherwise: warnings and worse, by their messages. -/
def plainText (records : List Record) : String :=
  let shown := records.filter fun r => Level.warning.severity ≤ r.level.severity
  String.join (shown.map fun r => written r.message r)

def output (outcome : Outcome) : String :=
  String.join (outcome.deeds.map fun
    | .print text => text
    | _ => "")

def errors (outcome : Outcome) (stamp : String) : String :=
  outcome.complaint ++
    if outcome.logging then logText stamp outcome.records else plainText outcome.records

def defaultThreads : Int := 40

/-- The size of the pool of threads when the command binds, if it does. -/
def threadsAtBind (outcome : Outcome) : Option Int := go defaultThreads outcome.deeds
where
  go (size : Int) : List Deed → Option Int
  | [] => none
  | .resizeThreads size :: rest => go size rest
  | .bind _ _ :: _ => some size
  | .print _ :: rest => go size rest

end Outcome

namespace Command

def logSource : String := "hellobench.cli"

def binds (report : Report) : List Deed := report.attempts.map fun (host, port) => .bind host port

def exitOf (finish : Finish) (state : ServerState) : Exit :=
  match finish with
  | .raised what => if what.isInterrupt then .returned 0 else .raised what
  | _ => .returned (if state = .failed then 1 else 0)

def closingRecords (finish : Finish) : List Record :=
  match finish with
  | .raised what =>
    if what.isInterrupt then
      [{ level := .info, source := logSource, message := "interrupted, shutting down" }]
    else []
  | _ => []

def serve (config : Config) (network : Network) : Outcome :=
  let settings := config.settings
  let start : Server := { settings, handler := Handler.ofRoutes Service.fixedRoutes }
  let (report, server) := start.run network
  { exit := exitOf report.finish server.state
    deeds := .resizeThreads config.workers :: binds report
    records := report.records ++ closingRecords report.finish
    report, server := some server }

def counted : Program where
  name := "hellobench"
  about := "Answer every HTTP request with 'Hello World!'."
  takesCount := true

def uncounted : Program where
  name := "hellobench-fixed"
  about := "Answer every HTTP request with 'Hello World!' using a fixed worker count."
  takesCount := false

def parsed (program : Program) (arguments : List String) (go : Value → Outcome) : Outcome :=
  match program.parse arguments with
  | .help => { exit := .quit 0, deeds := [.print program.helpText] }
  | .misuse text => { exit := .quit 2, complaint := program.errorText text }
  | .run count => go count

def serveCounted (count : Value) (network : Network) : Outcome :=
  match Config.ofWorkerCount count with
  | .error fault =>
    match fault.failure? with
    | some what => { exit := .raised (.one what) }
    | none =>
      { exit := .returned 2
        records := [{ level := .critical, source := logSource, message := fault.message }] }
  | .ok config =>
    match count.literal? with
    | none => { exit := .raised (.one (.value Text.unwrittenText)) }
    | some written =>
      let outcome := serve config network
      { outcome with deeds := .print s!"Using {written} workers.\n" :: outcome.deeds }

def runCounted (arguments : List String) (network : Network) : Outcome :=
  parsed counted arguments fun count => serveCounted count network

def runUncounted (arguments : List String) (network : Network) : Outcome :=
  parsed uncounted arguments fun _ => serve Config.fixed network

def asProcess (outcome : Outcome) : Outcome :=
  match outcome.exit with
  | .returned status => { outcome with exit := .quit status }
  | _ => outcome

def notStarted : Failure :=
  .runtime "Child exited without calling task_status.started()"

def greeting (port : Int) : Deed :=
  .print s!"Listening on http://127.0.0.1:{port}\nPress Ctrl-C to stop.\n"

/-- How serving extra routes ends. Whatever is raised comes in a group, except for an interrupt. -/
def exampleExit (report : Report) : Exit :=
  let grouped := fun (leaves : List Failure) => Failures.group (leaves.map .one)
  match report.finish, report.started with
  | .raised what, _ => .raised (if what.isInterrupt then .one .interrupt else grouped what.leaves)
  | _, some _ => .finished
  | _, none => .raised (grouped [notStarted])

def runExample (network : Network) : Outcome :=
  let start : Server := {
    settings := { workers := .whole 4 }, handler := Handler.ofRoutes Service.extraRoutes }
  let (report, server) := start.run network
  { exit := exampleExit report
    deeds := binds report ++ (report.started.map greeting).toList
    records := report.records
    logging := false
    report, server := some server }

end Command

end FixedReply
