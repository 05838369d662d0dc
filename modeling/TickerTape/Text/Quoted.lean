import TickerTape.Text.Extending
import TickerTape.Text.Ignorable
import TickerTape.Text.Printable

/-!
# Quoted text

A name inside a diagnostic is written between double quotes. Backslash, double quote and the usual
control characters have escapes of two characters; any other character that is not printable, or
that would be drawn as nothing or onto the one before it, is written as its code point in
hexadecimal.

## Main definitions

* `TickerTape.Text.isPlain` — the characters that a reader sees as they are.
* `TickerTape.Text.quoted` — a text between quotes.
* `TickerTape.Text.quotedSet` — a list of texts between braces.
-/

namespace TickerTape.Text

/-- Whether a reader sees `c` as a character of its own. -/
def isPlain (c : Char) : Bool := isPrintable c && !isIgnorable c && !isExtending c

/-- The code point of `c` as an escape. -/
def codePointEscape (c : Char) : List Char :=
  ['\\', 'u', '\x7b'] ++ Nat.toDigits 16 c.toNat ++ ['\x7d']

/-- The written form of `c` between quotes. -/
def escapeQuoted (c : Char) : List Char :=
  match c with
  | '\x00' => ['\\', '0']
  | '\t' => ['\\', 't']
  | '\r' => ['\\', 'r']
  | '\n' => ['\\', 'n']
  | '\\' => ['\\', '\\']
  | '"' => ['\\', '"']
  | c => if isPlain c then [c] else codePointEscape c

/-- A text between double quotes. -/
def quoted (s : String) : String :=
  String.ofList ('"' :: s.toList.flatMap escapeQuoted ++ ['"'])

/-- Texts between braces, each quoted, with a comma and a space between them. -/
def quotedSet (names : List String) : String :=
  "\x7b" ++ ", ".intercalate (names.map quoted) ++ "\x7d"

example : quoted "a\"\n" = "\"a\\\"\\n\"" := by decide +kernel
example : quoted "\uff76\uff9e\u3164" = "\"\uff76\uff9e\\u\x7b3164\x7d\"" := by decide +kernel
example : quotedSet ["A", "B"] = "\x7b\"A\", \"B\"\x7d" := by decide +kernel

end TickerTape.Text
