import FixedReply.Http.Response

namespace FixedReply.Http

inductive RouteFault
  | notRooted (pattern : String)
  | taken (pattern : String)
  deriving DecidableEq, Repr

namespace RouteFault

def message : RouteFault → String
  | notRooted pattern => s!"invalid pattern {Text.quote pattern}: must start with '/'"
  | taken pattern => s!"multiple registrations for {pattern}"

end RouteFault

/-- The subtrees are kept with the longest pattern first. -/
structure Routes (α : Type) where
  exact : List (String × α) := []
  subtrees : List (String × α) := []

namespace Routes

variable {α : Type}

def isRooted (pattern : String) : Bool := pattern.toList.head? == some '/'

def isSubtree (pattern : String) : Bool := pattern.toList.getLast? == some '/'

/-- Puts a subtree behind all patterns that are not shorter. -/
def insertSubtree (pattern : String) (handler : α) : List (String × α) → List (String × α)
  | [] => [(pattern, handler)]
  | route :: rest =>
    if route.1.length < pattern.length then (pattern, handler) :: route :: rest
    else route :: insertSubtree pattern handler rest

def patterns (routes : Routes α) : List String :=
  routes.exact.map Prod.fst ++ routes.subtrees.map Prod.fst

def add (routes : Routes α) (pattern : String) (handler : α) : Except RouteFault (Routes α) :=
  if !isRooted pattern then .error (.notRooted pattern)
  else if routes.patterns.contains pattern then .error (.taken pattern)
  else if isSubtree pattern then
    .ok { routes with subtrees := insertSubtree pattern handler routes.subtrees }
  else .ok { routes with exact := routes.exact ++ [(pattern, handler)] }

def addAll (routes : Routes α) : List (String × α) → Except RouteFault (Routes α)
  | [] => .ok routes
  | (pattern, handler) :: rest =>
    match routes.add pattern handler with
    | .error why => .error why
    | .ok routes => routes.addAll rest

def find? (routes : Routes α) (path : String) : Option α :=
  match routes.exact.lookup path with
  | some handler => some handler
  | none =>
    (routes.subtrees.find? fun route => route.1.toList.isPrefixOf path.toList).map Prod.snd

end Routes

def pageNotFound : Response := Response.text "404 page not found\n" 404

end FixedReply.Http
