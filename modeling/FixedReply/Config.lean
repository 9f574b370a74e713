import FixedReply.Config.Value
import FixedReply.Server.Lifecycle

namespace FixedReply

structure Config where
  workerCount : Value
  host : Value := .text "127.0.0.1"
  port : Value := .int 7080
  readTimeout : Value := .float (Binary64.ofNat 120)
  idleTimeout : Value := .float (Binary64.ofNat 120)
  maxHeaderBytes : Value := .int 65536
  maxBodyBytes : Value := .int 1048576
  deriving DecidableEq, Repr

/-- What is wrong with settings. What has been given is quoted as it is written; if it cannot be
written, that is the fault. -/
inductive ConfigFault
  | workerCount (given : Option String)
  | emptyHost
  | port (given : String)
  | timeout
  | sizeLimit
  | unknownField (name : String)
  | reservedField (name : String)
  | noWorkerCount
  | incomparable (left right : String)
  | immutable (name : String)
  | notAField
  | unwritten
  deriving DecidableEq, Repr

namespace ConfigFault

def workerCountRule : String :=
  "Server must be started with the worker_count command-line option indicating " ++
    "the number of threads to be used by the runtime (-worker_count N). " ++
    "The worker_count option value must be a positive integer."

def message : ConfigFault → String
  | workerCount none => workerCountRule
  | workerCount (some given) => workerCountRule ++ s!" Got {given}."
  | emptyHost => "host cannot be empty"
  | port given => s!"port must be in 0..65535, got {given}"
  | timeout => "timeouts must be positive"
  | sizeLimit => "size limits must be positive"
  | unknownField name => s!"ServerConfig.__init__() got an unexpected keyword argument '{name}'"
  | reservedField name => s!"ServerConfig.__init__() got multiple values for argument '{name}'"
  | noWorkerCount => "ServerConfig.__init__() missing 1 required positional argument: 'worker_count'"
  | incomparable left right =>
    s!"'<=' not supported between instances of '{left}' and '{right}'"
  | immutable name => s!"cannot assign to field {Text.quote name}"
  | notAField => "super(type, obj): obj must be an instance or subtype of type"
  | unwritten => Text.unwrittenText

def quoting (fault : String → ConfigFault) : Option String → ConfigFault
  | some given => fault given
  | none => unwritten

/-- The failure that settings end in which are not refused for what they are. -/
def failure? (fault : ConfigFault) : Option Failure :=
  match fault with
  | unknownField _ => some (.mistyped fault.message)
  | reservedField _ => some (.mistyped fault.message)
  | noWorkerCount => some (.mistyped fault.message)
  | incomparable _ _ => some (.mistyped fault.message)
  | notAField => some (.mistyped fault.message)
  | unwritten => some (.value fault.message)
  | _ => none

end ConfigFault

namespace Config

def fields (c : Config) : List (String × Value) := [
  ("worker_count", c.workerCount), ("host", c.host), ("port", c.port),
  ("read_timeout", c.readTimeout), ("idle_timeout", c.idleTimeout),
  ("max_header_bytes", c.maxHeaderBytes), ("max_body_bytes", c.maxBodyBytes)]

def literal? (c : Config) : Option String :=
  let part := fun (field : String × Value) => field.2.literal?.map fun written => field.1 ++ "=" ++ written
  (c.fields.mapM part).map fun parts => "ServerConfig(" ++ String.intercalate ", " parts ++ ")"

def same (c d : Config) : Bool :=
  (c.fields.zip d.fields).all fun (x, y) => x.2.same y.2

def checkCount (v : Value) : Except ConfigFault Unit :=
  if v.isCount then .ok () else .error (.quoting (fun given => .workerCount (some given)) v.literal?)

def checkPort (v : Value) : Except ConfigFault Unit :=
  if !v.isComparable then .error (.incomparable "int" v.typeName)
  else if v.isAtLeast 0 && v.isAtMost 65535 then .ok ()
  else .error (.quoting .port v.toText?)

def checkPositive (fault : ConfigFault) (v : Value) : Except ConfigFault Unit :=
  if !v.isComparable then .error (.incomparable v.typeName "int")
  else if v.isAtMost 0 then .error fault
  else .ok ()

/-- Checks the settings one after the other. The first fault counts. -/
def check (c : Config) : Except ConfigFault Unit := do
  checkCount c.workerCount
  if !c.host.isTruthy then throw .emptyHost
  checkPort c.port
  checkPositive .timeout c.readTimeout
  checkPositive .timeout c.idleTimeout
  checkPositive .sizeLimit c.maxHeaderBytes
  checkPositive .sizeLimit c.maxBodyBytes

def checked (c : Config) : Except ConfigFault Config :=
  match c.check with
  | .ok () => .ok c
  | .error fault => .error fault

def set? (c : Config) (name : String) (v : Value) : Option Config :=
  match name with
  | "worker_count" => some { c with workerCount := v }
  | "host" => some { c with host := v }
  | "port" => some { c with port := v }
  | "read_timeout" => some { c with readTimeout := v }
  | "idle_timeout" => some { c with idleTimeout := v }
  | "max_header_bytes" => some { c with maxHeaderBytes := v }
  | "max_body_bytes" => some { c with maxBodyBytes := v }
  | _ => none

/-- The name under which a configuration is given to itself while it is put together. -/
def ownName : String := "self"

def setAll (c : Config) : List (String × Value) → Except ConfigFault Config
  | [] => .ok c
  | (name, v) :: rest =>
    match c.set? name v with
    | none => .error (if name = ownName then .reservedField name else .unknownField name)
    | some c => c.setAll rest

def assign (c : Config) (name : String) (v : Value) : Except ConfigFault Config :=
  match c.set? name v with
  | some _ => .error (.immutable name)
  | none => .error .notAField

/-- Puts a configuration together from named settings. Only the worker count has no default. -/
def ofFields (given : List (String × Value)) : Except ConfigFault Config :=
  match setAll { workerCount := .nothing } given with
  | .error fault => .error fault
  | .ok c =>
    if (given.map Prod.fst).contains "worker_count" then c.checked else .error .noWorkerCount

def ofWorkerCount (count : Value) : Except ConfigFault Config :=
  if count = .nothing then .error (.workerCount none) else checked { workerCount := count }

def fixedWorkerCount : Int := 6

def fixed : Config := { workerCount := .int fixedWorkerCount }

def workers (c : Config) : Int := c.workerCount.floorMul 1

/-- The settings of the server of a configuration. A number of too many digits names no host. -/
def settings (c : Config) : Settings where
  host := c.host.toText?.getD ""
  port := c.port.floorMul 1
  workers := .whole c.workers
  terms := {
    readTimeout := (c.readTimeout.floorMul ticksPerSecond).toNat
    idleTimeout := (c.idleTimeout.floorMul ticksPerSecond).toNat
    limits := {
      head := c.maxHeaderBytes.floorMul 1
      body := c.maxBodyBytes.floorMul 1 } }

end Config

end FixedReply
