import FixedReply.Http.Fields
import FixedReply.Text.Blank
import FixedReply.Text.Case
import FixedReply.Text.Split
import FixedReply.Bytes

namespace FixedReply.Http

/-- Field names are in small letters. -/
structure Request where
  method : String
  path : String
  query : String := ""
  version : String
  headers : Fields := .empty
  body : Bytes := []
  deriving DecidableEq, Repr

/-- The parts of a list between commas, without the white space around them and in small letters;
parts that are blank are left out, and so are repetitions. -/
def listTokens (value : String) : List String :=
  ((Text.splitOn ',' value.toList).filterMap fun part =>
    let token := Text.trim Text.isBlank part
    if token.isEmpty then none else some (String.ofList (Text.lower token))).eraseDups

def connectionTokens (headers : Fields) : List String :=
  listTokens ((headers.find? "connection").getD "")

def keepsAlive (version : String) (headers : Fields) : Bool :=
  if version == "HTTP/1.0" then (connectionTokens headers).contains "keep-alive"
  else !(connectionTokens headers).contains "close"

namespace Request

def keepAlive (request : Request) : Bool := keepsAlive request.version request.headers

end Request

end FixedReply.Http
