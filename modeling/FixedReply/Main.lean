import FixedReply.Command

namespace FixedReply.Main

partial def readAll (input : IO.FS.Stream) (done : Bytes) : IO Bytes := do
  let block ← input.read 65536
  if block.isEmpty then return done else readAll input (done ++ block.toList)

def oneClient (bytes : Bytes) : Network where
  clients := [{ events := [{ what := .data bytes }, { what := .failure (.one .endOfStream) }] }]

def status : Exit → UInt32 × String
  | .returned n => (n.toUInt32, "")
  | .quit n => (n.toUInt32, "")
  | .finished => (0, "")
  | .raised what => (1, String.join (what.leaves.map fun f => s!"{f.kind}: {f.text}\n"))

def execute (command : List String → Network → Outcome) (arguments : List String) :
    IO UInt32 := do
  let input ← IO.getStdin
  let output ← IO.getStdout
  let errors ← IO.getStderr
  let stamp := toString (← IO.monoMsNow)
  let bytes ← readAll input []
  let outcome := command arguments (oneClient bytes)
  let (code, failure) := status outcome.exit
  output.putStr outcome.output
  for visit in outcome.report.visits do
    for (_, sent) in visit.sent do
      output.write (ByteArray.mk sent.toArray)
  output.flush
  errors.putStr (outcome.errors stamp ++ failure)
  return code

end FixedReply.Main

def main (arguments : List String) : IO UInt32 :=
  FixedReply.Main.execute FixedReply.Command.runCounted arguments
