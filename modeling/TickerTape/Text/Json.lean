/-!
# Text as a JSON string

A JSON string escapes the double quote, the backslash and the control characters below U+0020; all
other characters stand for themselves.

## Main definitions

* `TickerTape.Text.jsonString` — a text as a JSON string.
-/

namespace TickerTape.Text

/-- The written form of `c` in a JSON string. -/
def escapeJson (c : Char) : List Char :=
  match c with
  | '"' => ['\\', '"']
  | '\\' => ['\\', '\\']
  | '\x08' => ['\\', 'b']
  | '\t' => ['\\', 't']
  | '\n' => ['\\', 'n']
  | '\x0c' => ['\\', 'f']
  | '\r' => ['\\', 'r']
  | c =>
    if c.toNat < 0x20 then
      ['\\', 'u', '0', '0', (c.toNat / 16).digitChar, (c.toNat % 16).digitChar]
    else [c]

/-- A text as a JSON string. -/
def jsonString (s : String) : String :=
  String.ofList ('"' :: s.toList.flatMap escapeJson ++ ['"'])

example : jsonString "a\"\x1f" = "\"a\\\"\\u001f\"" := by decide +kernel

end TickerTape.Text
