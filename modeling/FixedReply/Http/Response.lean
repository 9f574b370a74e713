import FixedReply.Http.Fields
import FixedReply.Http.Status
import FixedReply.Text.Case
import FixedReply.Text.Encoding
import FixedReply.Text.Numeral

namespace FixedReply.Http

theorem isWritten_ok : Text.IsWritten 200 := by decide +kernel

structure Response where
  status : Int := 200
  headers : Fields := .empty
  body : Option Bytes := some []
  /-- A status of more digits than are written has no start line. -/
  written : Text.IsWritten status := by decide +kernel
  deriving DecidableEq, Repr

def canonicalName (name : String) : String :=
  String.ofList (Text.joinWith ['-'] ((Text.splitOn '-' name.toList).map Text.capitalize))

namespace Response

/-- The fields of a text response. A field that is given replaces the content type in whatever
letters its name is written. -/
def textHeaders (encoding : String) (headers : Fields) : Fields :=
  (Fields.ofPairs [("content-type", "text/plain; charset=" ++ encoding)]).putAll
    (headers.entries.map fun (name, value) => (Text.lowerString name, value))

def textIn (encoding text : String) (status : Int) (headers : Fields)
    (written : Text.IsWritten status) : Except Text.EncodingFault Response :=
  match Text.encodeNamed encoding text with
  | .error fault => .error fault
  | .ok body => .ok { status, headers := textHeaders encoding headers, body := some body, written }

def text (text : String) (status : Int := 200) (headers : Fields := .empty)
    (written : Text.IsWritten status := by decide +kernel) : Response where
  status := status
  headers := textHeaders "utf-8" headers
  body := some (text.toList.flatMap String.utf8EncodeChar)
  written := written

def payload (response : Response) : Bytes := response.body.getD []

/-- The fields that are sent: canonical names, the length of the body unless the handler has
declared one, and what becomes of the connection where the version does not say so by itself. -/
def sentHeaders (response : Response) (keepAlive : Bool) (version : String) : Fields :=
  let named := Fields.ofPairs (response.headers.entries.map fun (name, value) =>
    (canonicalName name, value))
  let sized :=
    if named.has "Content-Length" then named
    else named.put "Content-Length" (toString response.payload.length)
  if !keepAlive then sized.put "Connection" "close"
  else if version == "HTTP/1.0" then sized.put "Connection" "keep-alive"
  else sized

def headText (response : Response) (keepAlive : Bool) (version : String) : List Char :=
  s!"HTTP/1.1 {response.status} {statusText response.status}\r\n".toList ++
    (response.sentHeaders keepAlive version).entries.flatMap (fun (name, value) =>
      s!"{name}: {value}\r\n".toList) ++ ['\r', '\n']

def encode (response : Response) (keepAlive : Bool) (version : String := "HTTP/1.1")
    (headOnly : Bool := false) : Except Text.Unencodable Bytes :=
  match Text.Codec.latin1.encode (response.headText keepAlive version) with
  | .error what => .error what
  | .ok head => .ok (if headOnly then head else head ++ response.payload)

end Response

end FixedReply.Http
