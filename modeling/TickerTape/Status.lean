/-!
# Status codes of the engine

Every call of the engine answers with a status code. Zero is success; the codes from `-1` to `-22`
have names of their own, the codes below them down to `-1000` are named by their distance from
`-22`, and no other code is recognized.

## Main definitions

* `TickerTape.Status` — a status code.
* `TickerTape.Status.name`, `TickerTape.Status.render` — its name and its text.
* `TickerTape.Status.check` — success or the code of a failure.
-/

namespace TickerTape

/-- A status code of the engine, a signed number of 32 bits. -/
structure Status where
  code : Int
  deriving DecidableEq, Repr

namespace Status

/-- An argument was refused. -/
def badInput : Status := ⟨-1⟩

/-- The engine is not connected. -/
def notConnected : Status := ⟨-3⟩

/-- The engine already has a block of this name. -/
def blockExists : Status := ⟨-5⟩

/-- The engine has no block of this name. -/
def noBlock : Status := ⟨-6⟩

/-- The size of a block is zero or too large. -/
def blockSize : Status := ⟨-8⟩

/-- The engine has as many blocks as it may have. -/
def blockLimit : Status := ⟨-9⟩

/-- The topic is not streamed by the block. -/
def noTopic : Status := ⟨-10⟩

/-- The item is not streamed by the block. -/
def noItem : Status := ⟨-11⟩

/-- A slot at or past the size of the block. -/
def streamSize : Status := ⟨-12⟩

/-- A value cannot be given as the kind that was asked for. -/
def dataType : Status := ⟨-13⟩

/-- The engine knows no such topic. -/
def unknownTopic : Status := ⟨-16⟩

/-- A slot without a value. -/
def getData : Status := ⟨-19⟩

/-- The last code with a name of its own. -/
def lastNamed : Int := -22

/-- The lowest code that is named by its distance from the last name. -/
def floor : Int := -1000

/-- The names of the codes from `-1` downward. -/
def names : List String :=
  ["BAD_INPUT", "BAD_INPUT_BUFFER", "NOT_CONNECTED", "TIMEOUT", "BLOCK_ALREADY_EXISTS",
   "BLOCK_DOESNT_EXIST", "BLOCK_CREATION", "BLOCK_SIZE", "BLOCK_LIMIT", "TOPIC_DOESNT_EXIST",
   "ITEM_DOESNT_EXIST", "STREAM_SIZE", "DATA_TYPE", "IPC", "CONCURRENCY", "ENGINE_NO_TOPIC",
   "ENGINE_NO_ITEM", "SERVICE", "GET_DATA", "GET_STATE", "SET_STATE", "UNKNOWN"]

/-- There is a name for every code down to the last named one. -/
theorem length_names : (names.length : Int) = -lastNamed := rfl

/-- The name of a code. -/
def name (s : Status) : String :=
  if s.code = 0 then "SUCCESS"
  else if h : lastNamed ≤ s.code ∧ s.code < 0 then
    have := length_names
    names.get ⟨(-s.code - 1).toNat, by omega⟩
  else if floor ≤ s.code ∧ s.code < lastNamed then "UNKNOWN-" ++ toString (lastNamed - s.code)
  else "unrecognized error code (" ++ toString s.code ++ ")"

/-- The name of a code with the code itself. -/
def render (s : Status) : String := s.name ++ " (" ++ toString s.code ++ ")"

/-- Zero is success, any other code a failure. -/
def check (s : Status) : Except Status Unit := if s.code = 0 then .ok () else .error s

end Status

end TickerTape
