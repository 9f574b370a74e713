namespace FixedReply.Http

def statusTexts : List (Int × String) := [
  (100, "Continue"), (200, "OK"), (204, "No Content"), (400, "Bad Request"), (404, "Not Found"),
  (405, "Method Not Allowed"), (413, "Payload Too Large"),
  (431, "Request Header Fields Too Large"), (500, "Internal Server Error"),
  (501, "Not Implemented"), (505, "HTTP Version Not Supported")]

def statusText (status : Int) : String := (statusTexts.lookup status).getD "Unknown"

end FixedReply.Http
