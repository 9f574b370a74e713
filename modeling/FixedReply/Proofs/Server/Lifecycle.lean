import FixedReply.Proofs.Server.Operations

namespace FixedReply

namespace Server

variable {server : Server}

structure Episode where
  operation : Operation
  network : Network
  before : Server

namespace Episode

def report (e : Episode) : Report := (e.before.perform e.network e.operation).1

def after (e : Episode) : Server := (e.before.perform e.network e.operation).2

def passes (e : Episode) : List Server := e.before.passes e.network e.operation

def Settled (e : Episode) : Prop :=
  e.report.attempts ≠ [] ∧ ∀ what, e.network.bindFailure = some what → isSystemFailure what

end Episode

end Server

end FixedReply
