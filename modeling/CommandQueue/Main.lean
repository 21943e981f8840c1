import CommandQueue.Demo.Transcript

/-!
# The command line

The demonstration reads its arguments and the filter of its log from its
surroundings and writes its transcript.
-/

open CommandQueue

def main (arguments : List String) : IO UInt32 := do
  let filter ← IO.getEnv "RUST_LOG"
  let transcript := Demo.Transcript.ofArguments arguments filter
  for line in transcript.output do
    IO.println line
  for line in transcript.log do
    IO.eprintln line
  return transcript.code.toUInt32
