/-!
# Options of the streamer

The streamer is started with options that take a value, in a long form (`--size 10`, `--size=10`) or
a short one (`-s 10`, `-s10`, `-s=10`), and with flags. An argument that starts with a hyphen is
never the value of the option before it, unless it is a hyphen alone; an option without a value has
its default. Each option and flag may be named once, nothing else may be given, and the watchlist is
required.

## Main definitions

* `TickerTape.Streamer.Options` — the options with their defaults.
* `TickerTape.Streamer.Refusal` — why the streamer does not start.
* `TickerTape.Streamer.Options.parse` — reads arguments.
-/

namespace TickerTape.Streamer

/-- How the streamer is to run. -/
structure Options where
  /-- The path of the watchlist. -/
  config : String
  /-- The topics, separated by commas. -/
  topics : String := "LAST,VOLUME"
  /-- The capacity of the streams. -/
  size : Nat := 1000
  /-- Whether the streams record times. -/
  timestamps : Bool := false
  /-- The milliseconds between rounds. -/
  pollMs : Nat := 500
  /-- The number of rounds, zero for no end. -/
  iterations : Nat := 0
  /-- Whether lost values are accepted. -/
  ignoreDirty : Bool := false
  /-- How much is logged. -/
  logLevel : String := "info"
  deriving DecidableEq, Repr

/-- Why the streamer does not start. -/
inductive Refusal where
  /-- The arguments are wrong. -/
  | usage
  /-- Help was asked for. -/
  | help
  /-- The version was asked for. -/
  | version
  deriving DecidableEq, Repr

/-- The options that take a value. -/
inductive Key where
  | config
  | topics
  | size
  | pollMs
  | iterations
  | logLevel
  deriving DecidableEq, Repr

/-- The flags. -/
inductive Flag where
  | timestamps
  | ignoreDirty
  deriving DecidableEq, Repr

/-- What a name of an option stands for. -/
inductive Meaning where
  | key (k : Key)
  | flag (f : Flag)
  | refusal (r : Refusal)

/-- The long names. -/
def longName (name : String) : Meaning :=
  match name with
  | "config" => .key .config
  | "topics" => .key .topics
  | "size" => .key .size
  | "poll-ms" => .key .pollMs
  | "iterations" => .key .iterations
  | "log-level" => .key .logLevel
  | "timestamps" => .flag .timestamps
  | "ignore-dirty" => .flag .ignoreDirty
  | "help" => .refusal .help
  | "version" => .refusal .version
  | _ => .refusal .usage

/-- The short names. -/
def shortName (name : Char) : Meaning :=
  match name with
  | 'c' => .key .config
  | 't' => .key .topics
  | 's' => .key .size
  | 'p' => .key .pollMs
  | 'n' => .key .iterations
  | 'l' => .key .logLevel
  | 'h' => .refusal .help
  | 'V' => .refusal .version
  | _ => .refusal .usage

/-- What was read of the arguments. -/
structure Scan where
  /-- The options named, the last first. -/
  named : List Key := []
  /-- The values given for options. -/
  given : List (Key × String) := []
  /-- The flags named. -/
  flags : List Flag := []
  /-- The option whose value may come next. -/
  pending : Option Key := none
  /-- Whether the end of the options was marked. -/
  ended : Bool := false

namespace Scan

/-- A value of an option. -/
def give (s : Scan) (k : Key) (value : String) : Scan :=
  { s with given := (k, value) :: s.given, pending := none }

/-- An option or flag, with the value that is joined to it, if there is one. The value starts after
all its equals signs. -/
def name (s : Scan) (meaning : Meaning) (joined : Option (List Char)) : Except Refusal Scan :=
  match meaning, joined with
  | .key k, some value =>
    .ok ({ s with named := k :: s.named }.give k (String.ofList (value.dropWhile (· = '='))))
  | .key k, none => .ok { s with named := k :: s.named, pending := some k }
  | .flag f, _ => .ok { s with flags := f :: s.flags, pending := none }
  | .refusal r, _ => .error r

/-- Reads an argument. -/
def step (s : Scan) (arg : String) : Except Refusal Scan :=
  if s.ended then .error .usage
  else
    match arg.toList with
    | ['-', '-'] => .ok { s with ended := true }
    | '-' :: '-' :: rest =>
      let rest := rest.dropWhile (· = '-')
      let (long, tail) := rest.span (· ≠ '=')
      s.name (longName (String.ofList long))
        (match tail with
          | [] => none
          | _ :: value => some value)
    | '-' :: short :: rest =>
      s.name (shortName short) (if rest.isEmpty then none else some rest)
    | _ =>
      match s.pending with
      | some k => .ok (s.give k arg)
      | none => .error .usage

/-- Reads arguments in turn. -/
def steps (s : Scan) : List String → Except Refusal Scan
  | [] => .ok s
  | arg :: args => do
    let s ← s.step arg
    s.steps args

/-- Whether every option and flag was named at most once. -/
def isSound (s : Scan) : Bool := decide s.named.Nodup && decide s.flags.Nodup

/-- The value given for an option. -/
def value? (s : Scan) (k : Key) : Option String := s.given.lookup k

end Scan

/-- A number below `2 ^ 64` in decimal digits, with or without a plus sign. -/
def number? (text : String) : Option Nat :=
  let digits :=
    match text.toList with
    | '+' :: digits => digits
    | digits => digits
  if digits.isEmpty || !digits.all Char.isDigit then none
  else
    let n := digits.foldl (fun n c => n * 10 + (c.toNat - '0'.toNat)) 0
    if n < 0x10000000000000000 then some n else none

/-- The number given for an option, or its default. -/
def Scan.number (s : Scan) (k : Key) (default : Nat) : Except Refusal Nat :=
  match s.value? k with
  | none => .ok default
  | some text =>
    match number? text with
    | some n => .ok n
    | none => .error .usage

/-- Reads the options from arguments. -/
def Options.parse (args : List String) : Except Refusal Options := do
  let s ← Scan.steps {} args
  if !s.isSound then .error .usage
  else
    let size ← s.number .size 1000
    let pollMs ← s.number .pollMs 500
    let iterations ← s.number .iterations 0
    match s.value? .config with
    | none => .error .usage
    | some config =>
      .ok
        { config
          topics := (s.value? .topics).getD "LAST,VOLUME"
          size
          timestamps := s.flags.contains .timestamps
          pollMs
          iterations
          ignoreDirty := s.flags.contains .ignoreDirty
          logLevel := (s.value? .logLevel).getD "info" }

end TickerTape.Streamer
