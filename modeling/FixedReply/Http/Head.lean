import FixedReply.Http.Request
import FixedReply.Http.Target

namespace FixedReply.Http.Head

def isTokenChar (c : Char) : Bool :=
  c.isAlphanum || ['!', '#', '$', '%', '&', Text.singleQuote, '*', '+', '-', '.', '^', '_',
    Char.ofNat 96, '|', '~'].contains c

def isToken (s : List Char) : Bool := !s.isEmpty && s.all isTokenChar

def versionDigits? (s : List Char) : Option (Char × Char) :=
  match s with
  | ['H', 'T', 'T', 'P', '/', major, '.', minor] =>
    if major.isDigit && minor.isDigit then some (major, minor) else none
  | _ => none

/-- Reads the method, the target and the version, between which one space stands each. The first
fault from the left counts, save that the target is looked at last. -/
def readRequestLine (line : List Char) : Except Fault Request :=
  match Text.splitOn ' ' line with
  | [method, target, version] =>
    if !isToken method then .error (.refused .invalidMethod)
    else match versionDigits? version with
      | none => .error (.refused .malformedVersion)
      | some (major, _) =>
        if major ≠ '1' then .error (.refused (.unsupportedVersion (String.ofList version)))
        else match Target.read target with
          | .error why => .error why
          | .ok target => .ok {
              method := String.ofList method
              path := String.ofList target.path
              query := String.ofList target.query
              version := String.ofList version }
  | _ => .error (.refused .malformedRequestLine)

def readField (line : List Char) : Except Refusal (String × String) :=
  if (line.head?.map Text.isPadding).getD false then .error .lineFolding
  else match Text.cut ':' line with
    | (name, some value) =>
      if isToken name then
        .ok (String.ofList (Text.lower name), String.ofList (Text.trim Text.isPadding value))
      else .error (.malformedField (String.ofList line))
    | (_, none) => .error (.malformedField (String.ofList line))

/-- Adds a field. The values of one name are joined by commas, but a length must be repeated
unchanged. -/
def addField (headers : Fields) (name value : String) : Except Refusal Fields :=
  match headers.find? name with
  | none => .ok (headers.put name value)
  | some old =>
    if name == "content-length" then
      if old == value then .ok headers else .error .conflictingLength
    else .ok (headers.put name (old ++ ", " ++ value))

def readFields (headers : Fields) : List (List Char) → Except Refusal Fields
  | [] => .ok headers
  | line :: rest =>
    match readField line with
    | .error why => .error why
    | .ok (name, value) =>
      match addField headers name value with
      | .error why => .error why
      | .ok headers => readFields headers rest

def isLineEnd (c : Char) : Bool := c == '\r' || c == '\n'

/-- The lines of a head. Line ends ahead of the request line are overlooked. -/
def linesOf (block : Bytes) : List (List Char) := Text.lines (block.toText.dropWhile isLineEnd)

def read (block : Bytes) : Except Fault Request :=
  match linesOf block with
  | [] => .error (.refused .missingRequestLine)
  | [] :: _ => .error (.refused .missingRequestLine)
  | requestLine :: fieldLines =>
    match readRequestLine requestLine with
    | .error why => .error why
    | .ok request =>
      match readFields .empty fieldLines with
      | .error why => .error (.refused why)
      | .ok headers =>
        if request.version ≠ "HTTP/1.0" && !headers.has "host" then .error (.refused .missingHost)
        else .ok { request with headers }

end FixedReply.Http.Head
