import FixedReply.Http.Request
import FixedReply.Http.Routes
import FixedReply.Wire.Event

namespace FixedReply

open Http (Request Response Routes)

structure Answer where
  delay : Time := 0
  outcome : Except Mishap Response

/-- A way to answer requests, which is the same at every call: handlers that keep a state between their
calls are not covered. -/
abbrev Handler := Request → Answer

namespace Handler

def always (response : Response) : Handler := fun _ => { outcome := .ok response }

def ofRoutes (routes : Routes Handler) : Handler := fun request =>
  (routes.find? request.path).getD (always Http.pageNotFound) request

end Handler

end FixedReply
