import FixedReply.Proofs.Server.Conversation

namespace FixedReply

open Http (Request Response Fields Fault Refusal)
open Wire (Supply Did Stage Walk outcome upcoming)
open Connection (responseTo answer internalError readTurn)

variable {limits : Limits} {handler : Handler} {bytes data : Bytes} {wire final : Wire}
  {said : List Act} {request : Request}

end FixedReply
