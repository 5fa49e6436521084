/-
Writing JSON. Strings escape only the quote, the backslash and the characters below U+0020, the latter in their short
form where JSON has one and as `\u00xx` in lower-case hex otherwise.

`compact` writes no gaps: it is the canonical text that a screenplay's fingerprint is taken from. `pretty` sets each
member on its own line with two spaces per level: it is how saves are written.
-/
import VisualNovel.Text.Numeral
import VisualNovel.Json.Value

namespace VisualNovel.Json

/-- one hex digit, lower case -/
def hexDigit (n : Nat) : Char := Nat.digitChar n

/-- how a string writes one character -/
def writtenChar (c : Char) : List Char :=
  if c = '"' then ['\\', '"']
  else if c = '\\' then ['\\', '\\']
  else if c = '\x08' then ['\\', 'b']
  else if c = '\x0c' then ['\\', 'f']
  else if c = '\n' then ['\\', 'n']
  else if c = '\r' then ['\\', 'r']
  else if c = '\t' then ['\\', 't']
  else if c.toNat < 0x20 then ['\\', 'u', '0', '0', hexDigit (c.toNat / 16), hexDigit (c.toNat % 16)]
  else [c]

/-- a string literal -/
def writtenText (cs : List Char) : List Char := '"' :: cs.flatMap writtenChar ++ ['"']

/-- the gaps of a layout: before each element or closing bracket at a depth, and after a colon -/
structure Layout where
  line : Nat → List Char
  afterColon : List Char

/-- no gaps -/
def Layout.compact : Layout := ⟨fun _ => [], []⟩

/-- a line for each element, indented by two spaces per level -/
def Layout.pretty : Layout := ⟨fun depth => '\n' :: List.replicate (2 * depth) ' ', [' ']⟩

/-- the name of a member: one that is no text is written as a lone surrogate -/
def writtenName : Option String → List Char
  | some s => writtenText s.toList
  | none => ['"', '\\', 'u', 'd', '8', '0', '0', '"']

mutual
/-- a value at a depth -/
def render (lay : Layout) (depth : Nat) : Json → List Char
  | .null => ['n', 'u', 'l', 'l']
  | .bool true => ['t', 'r', 'u', 'e']
  | .bool false => ['f', 'a', 'l', 's', 'e']
  | .int n => Text.signedDigits n
  | .real false => ['0', '.', '0']
  | .real true => ['1', 'e', '3', '0', '9']
  | .str t => writtenName t
  | .arr [] => ['[', ']']
  | .arr (v :: vs) =>
    '[' :: lay.line (depth + 1) ++ render lay (depth + 1) v ++ renderElements lay depth vs
  | .obj [] => ['\x7b', '\x7d']
  | .obj ((name, v) :: ms) =>
    '\x7b' :: lay.line (depth + 1) ++ writtenName name ++ ':' :: lay.afterColon ++ render lay (depth + 1) v ++
      renderMembers lay depth ms
/-- the further elements of an array at a depth, and its end -/
def renderElements (lay : Layout) (depth : Nat) : List Json → List Char
  | [] => lay.line depth ++ [']']
  | v :: vs =>
    ',' :: lay.line (depth + 1) ++ render lay (depth + 1) v ++ renderElements lay depth vs
/-- the further members of an object at a depth, and its end -/
def renderMembers (lay : Layout) (depth : Nat) : List (Option String × Json) → List Char
  | [] => lay.line depth ++ ['\x7d']
  | (name, v) :: ms =>
    ',' :: lay.line (depth + 1) ++ writtenName name ++ ':' :: lay.afterColon ++ render lay (depth + 1) v ++
      renderMembers lay depth ms
end

/-- the text without gaps -/
def compact (v : Json) : String := String.ofList (render .compact 0 v)

/-- the text with a line per member -/
def pretty (v : Json) : String := String.ofList (render .pretty 0 v)

end VisualNovel.Json
