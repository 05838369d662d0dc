import TickerTape.Accessor.Names
import TickerTape.Accessor.Read
import TickerTape.Quote.Feed
import TickerTape.Streamer.Chance
import TickerTape.Streamer.Options
import TickerTape.Text.Json
import TickerTape.Text.Split
import TickerTape.Watchlist

/-!
# A run of the streamer

The streamer opens a block on an exchange with a feed and, in rounds, prints as a line of JSON what
was written to each stream since the round before. What chance and the clock decide is an argument,
a `TickerTape.Streamer.Chance`.

## Main definitions

* `TickerTape.Streamer.prepare` — the exchange, the feed and the block of a run.
* `TickerTape.Streamer.round` — a round.
* `TickerTape.Streamer.run` — some rounds in turn, from the arguments on.
-/

namespace TickerTape.Streamer

/-- A running streamer. -/
structure State where
  exchange : Engine.Exchange
  feed : Feed
  accessor : Accessor
  items : List String
  topics : List String
  policy : LossPolicy
  /-- The ticks of the feed so far. -/
  ticks : Nat

/-- The topics of a list with commas between them, in upper case. -/
def splitTopics (text : String) : List String :=
  ((Text.split ',' text.toList).map fun t => String.ofList (Text.upper (Text.trim t))).filter
    (· ≠ "")

/-- Runs an operation of the accessor against the exchange. -/
def operate {α : Type} (m : Operation α) (s : State) : Except Failure α × State :=
  let ((result, accessor), exchange) :=
    (m.start s.accessor).run (Engine.Exchange.handler "") s.exchange
  (result, { s with accessor, exchange })

/-- Adds names to the block, up to the first failure. -/
def addAll (axis : Axis) : List String → State → Except Failure State
  | [], s => .ok s
  | name :: names, s =>
    match operate (Accessor.addMember axis name) s with
    | (.ok (), s) => addAll axis names s
    | (.error f, _) => .error f

/-- Opens the block and fills it with the items of the watchlist and the topics. A failure is given
by its text. -/
def prepare (o : Options) (content : Except ReadFault (List UInt8)) (chance : Chance) :
    Except String State :=
  match Watchlist.ofFile o.config content with
  | .error fault => .error fault.message
  | .ok items =>
    let topics := splitTopics o.topics
    if topics.isEmpty then .error "No topics given"
    else
      match Feed.start items chance.price chance.now with
      | .error fault => .error fault.message
      | .ok feed =>
        let settings : Settings := { size := o.size, stamped := o.timestamps }
        match (Accessor.create settings).run (Engine.Exchange.handler chance.blockName) .start with
        | (.error f, _) => .error f.message
        | (.ok accessor, exchange) =>
          let policy := if o.ignoreDirty then LossPolicy.ignore else .fail
          let s : State := ⟨exchange, feed, accessor, items, topics, policy, 0⟩
          match (addAll .item items s).bind (addAll .topic topics) with
          | .error f => .error f.message
          | .ok s => .ok s

/-- A tick of the feed. One that fails changes nothing. -/
def tick (chance : Chance) (s : State) : State :=
  let s := { s with ticks := s.ticks + 1 }
  match s.feed.tick (chance.draw s.ticks) s.exchange with
  | .ok (.ok (_, feed, exchange)) => { s with feed, exchange }
  | _ => s

/-- Some ticks of the feed. -/
def tickTimes (chance : Chance) : Nat → State → State
  | 0, s => s
  | n + 1, s => tickTimes chance n (tick chance s)

/-- A point of a stream as a line of JSON. -/
def line (item topic : String) (p : Sample) : String :=
  let stamp :=
    match p.stamp with
    | some t => Text.jsonString t.render
    | none => "null"
  "\x7b\"item\":" ++ Text.jsonString item ++ ",\"timestamp\":" ++ stamp ++ ",\"topic\":"
    ++ Text.jsonString topic ++ ",\"value\":" ++ Text.jsonString p.value.render ++ "\x7d"

/-- The lines for what was written to some streams since the round before, up to the first
failure. -/
def drain : List (String × String) → State → List String × Except Failure Unit × State
  | [], s => ([], .ok (), s)
  | (item, topic) :: pairs, s =>
    match operate (Accessor.sinceMarker .any item topic 0 s.policy) s with
    | (.error f, s) => ([], .error f, s)
    | (.ok points, s) =>
      let (lines, result, s) := drain pairs s
      (points.map (fun (p : Point Value) => line item topic p) ++ lines, result, s)

/-- The ticks that fall before the round at which `elapsed` milliseconds have passed, then the lines
of the round. -/
def round (chance : Chance) (elapsed : Nat) (s : State) :
    List String × Except String Unit × State :=
  let s := tickTimes chance (ticksDue elapsed - s.ticks) s
  let pairs := s.items.flatMap fun item => s.topics.map fun topic => (item, topic)
  let (lines, result, s) := drain pairs s
  (lines, result.mapError Failure.message, s)

/-- Rounds in turn, the next of which is number `k`, up to the first failure. -/
def rounds (chance : Chance) (pollMs : Nat) :
    Nat → Nat → State → List String × Except String Unit × State
  | 0, _, s => ([], .ok (), s)
  | n + 1, k, s =>
    match round chance (k * pollMs) s with
    | (lines, .error e, s) => (lines, .error e, s)
    | (lines, .ok (), s) =>
      let (more, result, s) := rounds chance pollMs n (k + 1) s
      (lines ++ more, result, s)

/-- Closes the block at the end of a run. A failure to do so takes the place of the run's result. -/
def finish (result : Except String Unit) (s : State) : Except String Unit :=
  match (operate Accessor.close s).1 with
  | .ok () => result
  | .error f => .error f.message

/-- The text of a failure. -/
def failureText (message : String) : String := "Cli failed with error: " ++ message

/-- The line on which a failure is reported. -/
def errorLine (message : String) : String :=
  "Error: GeneralError(" ++ Text.quoted message ++ ")"

/-- What a run prints and how it ends. -/
structure Report where
  lines : List String
  error : Option String
  exit : Nat
  deriving DecidableEq, Repr

/-- The report of a run that ended with a result. -/
def report (lines : List String) : Except String Unit → Report
  | .ok () => ⟨lines, none, 0⟩
  | .error message => ⟨lines, some (errorLine message), 1⟩

/-- The name and version of the streamer. -/
def versionLine : String := "quote_streams 0.1.0"

/-- How the streamer is used. -/
def usageLines : List String :=
  [versionLine, "Polls simulated quote streams through a block accessor", "",
   "USAGE:", "    quote_streams [FLAGS] [OPTIONS] --config <config>"]

/-- The report of a streamer that does not start. -/
def refuse : Refusal → Report
  | .usage => ⟨[], none, 1⟩
  | .help => ⟨usageLines, none, 0⟩
  | .version => ⟨[versionLine], none, 0⟩

/-- A run from its arguments on; `read` gives the bytes of a file. A run without end is followed for
`patience` rounds. -/
def run (patience : Nat) (args : List String)
    (read : String → Except ReadFault (List UInt8)) (chance : Chance) : Report :=
  match Options.parse args with
  | .error refusal => refuse refusal
  | .ok o =>
    match prepare o (read o.config) chance with
    | .error message => report [] (.error message)
    | .ok s =>
      let n := if o.iterations = 0 then patience else o.iterations
      let (lines, result, s) := rounds chance o.pollMs n 1 s
      report lines (finish result s)

end TickerTape.Streamer
