import FixedReply.Server.Handler

namespace FixedReply.Service

open Http (Fields Request Response Routes)

def fixedResponse : Response where
  headers := { entries := [("server", "Python"), ("content-type", "text/plain")] }
  body := some (Bytes.ofString "Hello World!")

def fixedHandler : Handler := Handler.always fixedResponse

def fixedRoutes : Routes Handler := { subtrees := [("/", fixedHandler)] }

def repliesFixed (handler : Handler) (request : Request) : Bool :=
  match (handler request).outcome with
  | .ok response => response == fixedResponse
  | .error _ => false

def healthHandler : Handler := Handler.always (Response.text "ok\n")

def echoHandler : Handler := fun request =>
  let contentType := (request.headers.find? "content-type").getD "application/octet-stream"
  { outcome := .ok {
      headers := Fields.ofPairs [("content-type", contentType)]
      body := some request.body } }

def extraRoutes : Routes Handler :=
  { fixedRoutes with exact := [("/health", healthHandler), ("/echo", echoHandler)] }

end FixedReply.Service
