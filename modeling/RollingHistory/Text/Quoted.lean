import RollingHistory.Text.Shown

/-!
Text between double quotes.

A quote, a backslash and the common control characters have a two-character form; any other
character that is not shown as it is stands as its code point in braces.
-/

namespace RollingHistory.Text

/-- The code point in lower-case hexadecimal: `\u{…}`. -/
def codePoint (c : Char) : List Char :=
  ['\\', 'u', '\x7b'] ++ Nat.toDigits 16 c.toNat ++ ['\x7d']

/-- One character inside the quotes. -/
def quotedChar (c : Char) : List Char :=
  match c with
  | '"' => ['\\', '"']
  | '\\' => ['\\', '\\']
  | '\x00' => ['\\', '0']
  | '\t' => ['\\', 't']
  | '\n' => ['\\', 'n']
  | '\r' => ['\\', 'r']
  | c => if isShown c then [c] else codePoint c

/-- The text in quotes. -/
def quoted (text : String) : String :=
  String.ofList ('"' :: text.toList.flatMap quotedChar ++ ['"'])

end RollingHistory.Text
