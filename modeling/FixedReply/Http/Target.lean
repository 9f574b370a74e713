import FixedReply.Http.Address
import FixedReply.Http.Refusal

namespace FixedReply.Http

structure Target where
  path : List Char
  query : List Char
  deriving DecidableEq, Repr

namespace Target

def ofPathAndQuery (s : List Char) : Target :=
  let (path, query) := Text.cut '?' s
  ⟨path, query.getD []⟩

def checkHost (host : List Char) : Except AuthorityFault Unit :=
  if host.head? = some 'v' then
    if Address.isFuture host then .ok () else .error .malformedFuture
  else if Address.isIPv4 host then .error .bracketedIPv4
  else if Address.isIPv6 host then .ok ()
  else .error (.notAnAddress (String.ofList host))

/-- Checks a host, with the port after it, in which both kinds of bracket occur. This is the reading of
late patch releases: nothing comes before the opening bracket, and at most a port after the closing one.
Earlier ones look only at what stands between the brackets, and take an authority such as a[::1]. -/
def checkBracketed (hostAndPort : List Char) : Except AuthorityFault Unit :=
  match Text.cut '[' hostAndPort with
  | (before, some bracketed) =>
    let (host, after) := Text.cut ']' bracketed
    let port := after.getD []
    if !before.isEmpty || !(port.isEmpty || port.head? = some ':') then .error .unbalancedBrackets
    else checkHost host
  | (unbracketed, none) => checkHost (Text.cut ':' unbracketed).1

/-- Checks what stands between the scheme and the path. Only brackets are looked at. -/
def checkAuthority (authority : List Char) : Except AuthorityFault Unit :=
  match authority.contains '[', authority.contains ']' with
  | false, false => .ok ()
  | true, true => checkBracketed (Text.cutLast '@' authority).2
  | _, _ => .error .unbalancedBrackets

def endsAuthority (c : Char) : Bool := c == '/' || c == '?' || c == '#'

/-- The target of what follows the scheme of an absolute address. Tabs and line ends are overlooked,
a fragment is dropped, and an empty path is the root. -/
def ofAbsolute (s : List Char) : Except AuthorityFault Target :=
  let s := s.filter fun c => !(c == '\t' || c == '\r' || c == '\n')
  match checkAuthority (s.takeWhile (!endsAuthority ·)) with
  | .error why => .error why
  | .ok () =>
    let target := ofPathAndQuery (Text.cut '#' (s.dropWhile (!endsAuthority ·))).1
    .ok (if target.path.isEmpty then { target with path := ['/'] } else target)

def afterScheme? (s : List Char) : Option (List Char) :=
  if "http://".toList.isPrefixOf s then some (s.drop 7)
  else if "https://".toList.isPrefixOf s then some (s.drop 8)
  else none

def read (s : List Char) : Except Fault Target :=
  if s.head? = some '/' || s == ['*'] then .ok (ofPathAndQuery s)
  else match afterScheme? s with
    | none => .error (.refused .invalidTarget)
    | some rest => (ofAbsolute rest).mapError .badAuthority

end Target

end FixedReply.Http
