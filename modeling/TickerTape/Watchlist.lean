import TickerTape.FileTree
import TickerTape.Text.Blank
import TickerTape.Text.Split
import TickerTape.Text.Upper
import TickerTape.Text.Utf8

/-!
# Watchlists

A watchlist names the items to stream, one on each line of a file. Blanks around a name do not
count; lines that are blank or start with `#` hold no name. Names are put into upper case, and of
equal names only the first counts.

## Main definitions

* `TickerTape.Watchlist.lines` — the lines of a text.
* `TickerTape.Watchlist.symbols` — the names on lines.
* `TickerTape.Watchlist.ofText`, `TickerTape.Watchlist.ofFile` — the names in a text or a file.
-/

namespace TickerTape.Watchlist

/-- Why there is no watchlist. -/
inductive Fault where
  /-- The file could not be read. -/
  | unreadable (cause : ReadFault)
  /-- The file names no item. -/
  | empty (path : String)
  deriving DecidableEq, Repr

/-- The text of a fault. -/
def Fault.message : Fault → String
  | unreadable cause => "Failed to read watchlist: " ++ cause.message
  | empty path => "Watchlist " ++ path ++ " contains no items"

/-- The lines of a text, each without the line feed that ends it. -/
def lines (cs : List Char) : List (List Char) := Text.split '\n' cs

/-- The name on a line, in the letters that `upper` gives. -/
def symbol (upper : List Char → List Char) (line : List Char) : Option String :=
  match Text.trim line with
  | [] => none
  | '#' :: _ => none
  | name => some (String.ofList (upper name))

/-- The names on lines, each once, in the order in which they first occur. -/
def symbols (upper : List Char → List Char) (lines : List (List Char)) : List String :=
  (lines.filterMap (symbol upper)).eraseDups

/-- The names in a text. -/
def ofText (path text : String) : Except Fault (List String) :=
  match symbols Text.upper (lines text.toList) with
  | [] => .error (.empty path)
  | items => .ok items

/-- The names in a file with the given bytes. -/
def ofFile (path : String) (content : Except ReadFault (List UInt8)) :
    Except Fault (List String) :=
  match content with
  | .error cause => .error (.unreadable cause)
  | .ok bytes =>
    match Text.Utf8.strict bytes with
    | some text => ofText path text
    | none => .error (.unreadable .notText)

end TickerTape.Watchlist
