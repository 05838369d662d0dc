import TickerTape.Accessor.Basic

/-!
# The description of an accessor

For diagnostics an accessor is described by its settings and all that it remembers.

## Main definitions

* `TickerTape.Accessor.describe` — the description.
-/

namespace TickerTape

/-- A record of fields between braces, under a name. -/
def describeFields (name : String) (fields : List (String × String)) : String :=
  name ++ " \x7b " ++ ", ".intercalate (fields.map fun (field, text) => field ++ ": " ++ text)
    ++ " \x7d"

/-- The description of remembered names. -/
def Members.describe (m : Members) : String :=
  describeFields "Membership"
    [("items", Text.quotedSet m.items.keys), ("topics", Text.quotedSet m.topics.keys)]

namespace Accessor

/-- The description of what an accessor remembers. -/
def describeState (a : Accessor) : String :=
  let state := describeFields "BlockState"
    [("size", toString a.size), ("members", a.members.describe)]
  "Mutex \x7b data: " ++ state ++ ", poisoned: false, .. \x7d"

/-- The description of an accessor. -/
def describe (a : Accessor) : String :=
  describeFields "Block"
    [("name", Text.quoted a.name), ("uses_timestamp", toString a.stamped),
     ("timeout_ms", toString a.timeout), ("marker_margin", toString a.margin),
     ("state", a.describeState), ("closed", toString a.closed)]

end Accessor

end TickerTape
