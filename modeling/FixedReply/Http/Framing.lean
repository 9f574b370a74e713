import FixedReply.Http.Refusal
import FixedReply.Http.Request
import FixedReply.Text.Numeral

namespace FixedReply.Http

inductive Framing
  | chunked
  | sized (length : Nat)
  deriving DecidableEq, Repr

namespace Framing

/-- The number that a declared length stands for. An empty length is zero. -/
def readLength (value : String) : Except Fault Nat :=
  let digits := value.toList
  if digits.isEmpty then .ok 0
  else if !digits.all Char.isDigit then .error (.refused (.malformedLength value))
  else if Text.digitLimit < digits.length then .error (.tooManyDigits digits.length)
  else .ok (Text.ofDigits (digits.map fun d => d.toNat - 48))

/-- The framing of a body. A transfer coding other than chunks is refused, and so is one beside a
declared length. -/
def ofHeaders (headers : Fields) : Except Fault Framing :=
  match headers.find? "transfer-encoding" with
  | some coding =>
    if Text.lower (Text.trim Text.isBlank coding.toList) ≠ "chunked".toList then
      .error (.refused (.unsupportedCoding coding))
    else if headers.has "content-length" then .error (.refused .twoFramings)
    else .ok .chunked
  | none =>
    match readLength ((headers.find? "content-length").getD "0") with
    | .error why => .error why
    | .ok length => .ok (.sized length)

end Framing

def expectsLeave (request : Request) : Bool :=
  request.version ≠ "HTTP/1.0" &&
    Text.lowerString ((request.headers.find? "expect").getD "") == "100-continue"

end FixedReply.Http
