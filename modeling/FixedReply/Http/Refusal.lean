import FixedReply.Failure
import FixedReply.Http.Response
import FixedReply.Text.Numeral

namespace FixedReply.Http

structure Problem where
  status : Int
  reason : String
  written : Text.IsWritten status := by decide +kernel
  deriving Repr

namespace Problem

def text (p : Problem) : String := s!"{p.status} {statusText p.status}: {p.reason}"

def response (p : Problem) : Response := Response.text p.text p.status .empty p.written

end Problem

inductive Refusal
  | missingRequestLine
  | malformedRequestLine
  | invalidMethod
  | malformedVersion
  | unsupportedVersion (version : String)
  | invalidTarget
  | lineFolding
  | malformedField (line : String)
  | conflictingLength
  | missingHost
  | unsupportedCoding (coding : String)
  | twoFramings
  | malformedLength (length : String)
  | headTooLarge
  | bodyTooLarge
  | sizeLineTooLong
  | malformedSize
  | malformedChunk
  | trailersTooLarge
  deriving DecidableEq, Repr

namespace Refusal

def problem : Refusal → Problem
  | missingRequestLine => { status := 400, reason := "missing request line" }
  | malformedRequestLine => { status := 400, reason := "malformed request line" }
  | invalidMethod => { status := 400, reason := "invalid method" }
  | malformedVersion => { status := 400, reason := "malformed HTTP version" }
  | unsupportedVersion version => { status := 505, reason := s!"unsupported protocol version {version}" }
  | invalidTarget => { status := 400, reason := "invalid request target" }
  | lineFolding => { status := 400, reason := "obsolete line folding" }
  | malformedField line => { status := 400, reason := s!"malformed header line {Text.quote line}" }
  | conflictingLength => { status := 400, reason := "conflicting Content-Length" }
  | missingHost => { status := 400, reason := "missing required Host header" }
  | unsupportedCoding coding => { status := 501, reason := s!"unsupported transfer encoding {Text.quote coding}" }
  | twoFramings => { status := 400, reason := "both Transfer-Encoding and Content-Length" }
  | malformedLength length => { status := 400, reason := s!"bad Content-Length {Text.quote length}" }
  | headTooLarge => { status := 431, reason := "request header too large" }
  | bodyTooLarge => { status := 413, reason := "request body too large" }
  | sizeLineTooLong => { status := 400, reason := "chunk size line too long" }
  | malformedSize => { status := 400, reason := "malformed chunk size" }
  | malformedChunk => { status := 400, reason := "malformed chunk" }
  | trailersTooLarge => { status := 431, reason := "trailer section too large" }

end Refusal

inductive AuthorityFault
  | unbalancedBrackets
  | malformedFuture
  | bracketedIPv4
  | notAnAddress (host : String)
  deriving DecidableEq, Repr

namespace AuthorityFault

def message : AuthorityFault → String
  | unbalancedBrackets => "Invalid IPv6 URL"
  | malformedFuture => "IPvFuture address is invalid"
  | bracketedIPv4 => "An IPv4 address cannot be in brackets"
  | notAnAddress host => s!"{Text.quote host} does not appear to be an IPv4 or IPv6 address"

end AuthorityFault

/-- Why a request is not read to its end: it is refused with an answer, or it holds something that
the reading of it does not survive. -/
inductive Fault
  | refused (why : Refusal)
  | badAuthority (why : AuthorityFault)
  | tooManyDigits (count : Nat)
  deriving DecidableEq, Repr

namespace Fault

def failure : Fault → Failure
  | refused why => .refusal why.problem.text
  | badAuthority why => .value why.message
  | tooManyDigits count => .value (Text.tooManyDigitsText count)

end Fault

end FixedReply.Http
