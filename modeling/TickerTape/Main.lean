import Std.Time.DateTime.Timestamp
import TickerTape.Streamer.Run

/-!
# The streamer as a program

Reads the watchlist, the clock and a seed, and runs the rounds of the streamer with a pause before
each.

## Main definitions

* `main` — the program.
-/

namespace TickerTape.Streamer

/-- The time. -/
def clock : IO Stamp := do
  let now ← Std.Time.Timestamp.now
  match Stamp.ofNanos now.toNanosecondsSinceUnixEpoch.val with
  | .ok t => return t
  | .error fault => throw (.userError fault.message)

/-- A seed. -/
def seed : IO UInt64 := do
  let bytes ← IO.getRandomBytes 8
  return bytes.foldl (fun w b => w * 256 + b.toUInt64) 0

/-- Whether the code of an error says that its number is `n`. Some calls give the number itself,
others its negation. -/
def isNumber (n code : UInt32) : Bool := code = n || code = -n

/-- The bytes of a file. -/
def readFile (path : String) : IO (Except ReadFault (List UInt8)) := do
  try
    let bytes ← IO.FS.readBinFile path
    return .ok bytes.data.toList
  catch
    | .noFileOrDirectory .. => return .error .missing
    | .permissionDenied .. => return .error .denied
    | .inappropriateType _ code _ =>
      return .error (if isNumber 20 code then .notDirectory else .directory)
    | .invalidArgument path code detail =>
      return .error
        (if isNumber 36 code then .nameTooLong
        else .other (toString (IO.Error.invalidArgument path code detail)))
    | e => return .error (.other (toString e))

/-- Prints what a report says and gives its exit code. -/
def Report.print (r : Report) : IO UInt32 := do
  for line in r.lines do IO.println line
  for line in r.error do IO.eprintln line
  return r.exit.toUInt32

/-- Rounds with pauses between them, from number `k` on, until the last or the first failure. -/
partial def loop (chance : Chance) (o : Options) (k : Nat) (s : State) :
    IO (Except String Unit × State) := do
  if o.iterations ≠ 0 ∧ o.iterations < k then return (.ok (), s)
  else
    IO.sleep o.pollMs.toUInt32
    let (lines, result, s) := round chance (k * o.pollMs) s
    for line in lines do IO.println line
    match result with
    | .ok () => loop chance o (k + 1) s
    | .error message => return (.error message, s)

end TickerTape.Streamer

open TickerTape Streamer in
/-- Runs the streamer with the given arguments. -/
def main (args : List String) : IO UInt32 := do
  match Options.parse args with
  | .error refusal => (refuse refusal).print
  | .ok o =>
    let content ← readFile o.config
    let chance := Chance.ofSeed (← seed) (← clock) tickPeriod
    match prepare o content chance with
    | .error message => (report [] (.error message)).print
    | .ok s =>
      let (result, s) ← loop chance o 1 s
      (report [] (finish result s)).print
