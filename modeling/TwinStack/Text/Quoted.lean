import TwinStack.Text.ExtendingMark
import TwinStack.Text.Unprintable

/-! Text between double quotes on one line, every character of it visible. -/
namespace TwinStack.Text

def codePoint (c : Char) : List Char :=
  "\\u\x7b".toList ++ Nat.toDigits 16 c.toNat ++ "\x7d".toList

/-- Quotes, backslashes and the common control characters have escapes of two characters. A
character that is not visible by itself is written as its code point. -/
def escapeChar : Char → List Char
  | '\x00' => ['\\', '0']
  | '\t' => ['\\', 't']
  | '\n' => ['\\', 'n']
  | '\r' => ['\\', 'r']
  | '"' => ['\\', '"']
  | '\\' => ['\\', '\\']
  | c => if extendingMarks.contains c || unprintable.contains c then codePoint c else [c]

def quoted (s : String) : String :=
  "\"" ++ String.ofList (s.toList.flatMap escapeChar) ++ "\""

end TwinStack.Text
