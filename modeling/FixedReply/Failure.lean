import FixedReply.Text.Unencodable

namespace FixedReply

inductive SystemFault
  | note (text : String)
  | number (n : Int)
  | coded (code : Int) (reason : String)
  deriving DecidableEq, Repr

namespace SystemFault

def kinds : List (Int × String) := [
  (1, "PermissionError"), (2, "FileNotFoundError"), (3, "ProcessLookupError"),
  (4, "InterruptedError"), (10, "ChildProcessError"), (11, "BlockingIOError"),
  (13, "PermissionError"), (17, "FileExistsError"), (20, "NotADirectoryError"),
  (21, "IsADirectoryError"), (32, "BrokenPipeError"), (103, "ConnectionAbortedError"),
  (104, "ConnectionResetError"), (108, "BrokenPipeError"), (110, "TimeoutError"),
  (111, "ConnectionRefusedError"), (114, "BlockingIOError"), (115, "BlockingIOError")]

def kind : SystemFault → String
  | coded code _ => (kinds.lookup code).getD "OSError"
  | _ => "OSError"

def text : SystemFault → String
  | note text => text
  | number n => toString n
  | coded code reason => s!"[Errno {code}] {reason}"

def arguments : SystemFault → String
  | note text => Text.quote text
  | number n => toString n
  | coded code reason => s!"{code}, {Text.quote reason}"

end SystemFault

inductive Failure
  | system (fault : SystemFault)
  | value (text : String)
  | mistyped (text : String)
  | runtime (text : String)
  | endOfStream
  | brokenStream
  | closedStream
  | cutShort
  | unencodable (what : Text.Unencodable)
  | refusal (text : String)
  | interrupt
  deriving DecidableEq, Repr

namespace Failure

def kind : Failure → String
  | system fault => fault.kind
  | value _ => "ValueError"
  | mistyped _ => "TypeError"
  | runtime _ => "RuntimeError"
  | endOfStream => "EndOfStream"
  | brokenStream => "BrokenResourceError"
  | closedStream => "ClosedResourceError"
  | cutShort => "IncompleteRead"
  | unencodable _ => "UnicodeEncodeError"
  | refusal _ => "HttpError"
  | interrupt => "KeyboardInterrupt"

def text : Failure → String
  | system fault => fault.text
  | value text => text
  | mistyped text => text
  | runtime text => text
  | cutShort => "The stream was closed before the read operation could be completed"
  | unencodable what => what.message
  | refusal text => text
  | endOfStream => ""
  | brokenStream => ""
  | closedStream => ""
  | interrupt => ""

def literal (f : Failure) : String :=
  let arguments := match f with
    | system fault => fault.arguments
    | _ => if f.text.isEmpty then "" else Text.quote f.text
  f.kind ++ "(" ++ arguments ++ ")"

def isLoss : Failure → Bool
  | system _ => true
  | brokenStream => true
  | closedStream => true
  | cutShort => true
  | _ => false

def isSystem : Failure → Bool
  | system _ => true
  | _ => false

end Failure

inductive Failures
  | one (f : Failure)
  | group (members : List Failures)
  deriving Repr

namespace Failures

mutual

def leaves : Failures → List Failure
  | one f => [f]
  | group members => leavesOfAll members

def leavesOfAll : List Failures → List Failure
  | [] => []
  | t :: rest => t.leaves ++ leavesOfAll rest

end

mutual

/-- What remains of the failures when of the single ones only some are kept. The groups keep their
shape, but for those of which nothing remains. -/
def only (p : Failure → Bool) : Failures → Option Failures
  | one f => if p f then some (one f) else none
  | group members =>
    match onlyOfAll p members with
    | [] => none
    | kept => some (group kept)

def onlyOfAll (p : Failure → Bool) : List Failures → List Failures
  | [] => []
  | t :: rest => (t.only p).toList ++ onlyOfAll p rest

end

def kind : Failures → String
  | one f => f.kind
  | group _ => "ExceptionGroup"

def isInterrupt (what : Failures) : Bool := what.leaves == [.interrupt]

end Failures

/-- What a handler may fail with. That the user wants an end is no failure of a handler. -/
structure Mishap where
  failures : Failures
  uninterrupted : .interrupt ∉ failures.leaves

def Mishap.runtime (text : String) : Mishap where
  failures := .one (.runtime text)
  uninterrupted := by simp [Failures.leaves]

end FixedReply
