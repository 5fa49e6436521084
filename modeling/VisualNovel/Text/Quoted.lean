/-
Quoted text, as log lines show tokens and labels: in double quotes, with a backslash form for the quote, the backslash,
tab, line feed, carriage return and NUL, and the code point in hex for every other character that cannot be seen. A
list of quoted texts stands in square brackets.
-/
import VisualNovel.Text.Visible

namespace VisualNovel.Text

/-- the digits of `n` in base 16, lower case -/
def hexDigits (n : Nat) : List Char := Nat.toDigits 16 n

/-- how a quoted text shows one character -/
def quotedChar (c : Char) : List Char :=
  match c with
  | '"' => ['\\', '"']
  | '\\' => ['\\', '\\']
  | '\t' => ['\\', 't']
  | '\r' => ['\\', 'r']
  | '\n' => ['\\', 'n']
  | '\x00' => ['\\', '0']
  | c => if isShown c then [c] else "\\u\x7b".toList ++ hexDigits c.toNat ++ ['\x7d']

/-- a text in quotes -/
def quoted (s : String) : String := String.ofList ('"' :: s.toList.flatMap quotedChar ++ ['"'])

/-- a list of texts, each in quotes -/
def quotedList (ss : List String) : String := "[" ++ ", ".intercalate (ss.map quoted) ++ "]"

end VisualNovel.Text
