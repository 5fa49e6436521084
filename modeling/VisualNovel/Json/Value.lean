/-
JSON documents as values.

A value keeps what the program's documents need and what a reader of a document has to judge: members stay in their
written order with repetitions (a repeated member is a fault of some documents), a numeral without fraction and
exponent is an integer of any size, and any other numeral only records whether it is too large for a 64-bit float, since
no document of this program holds one. A string literal may stand for no Unicode text at all (a lone surrogate, a stray
byte): it is `none`, which is fine where nobody looks at it and a fault elsewhere.

`Json.bears` says which values can be kept for later: every text is one, every number fits a float, and the nesting
stays within `room` further levels.
-/
import VisualNovel.Json.Magnitude

namespace VisualNovel

/-- a JSON value -/
inductive Json where
  | null
  | bool (b : Bool)
  | int (n : Int)
  | real (tooLarge : Bool)
  | str (text : Option String)
  | arr (elements : List Json)
  | obj (members : List (Option String × Json))

namespace Json

/-- the string value of a text -/
def text (s : String) : Json := .str (some s)

/-- the value of a size, a position or a count -/
def nat (n : Nat) : Json := .int n

/-- the array of texts -/
def texts (ss : List String) : Json := .arr (ss.map text)

/-- the object with these members, in this order -/
def object (members : List (String × Json)) : Json := .obj (members.map fun m => (some m.1, m.2))

/-- a text, or null for none -/
def optText : Option String → Json
  | some s => text s
  | none => .null

mutual
/-- whether a value can be kept: all texts are texts, all numbers fit a float, at most `room` levels of nesting -/
def bears (room : Nat) : Json → Bool
  | .null | .bool _ => true
  | .int n => !isTooLarge (Text.digits n.natAbs) [] 0
  | .real tooLarge => !tooLarge
  | .str text => text.isSome
  | .arr elements => decide (0 < room) && bearsAll (room - 1) elements
  | .obj members => decide (0 < room) && bearsMembers (room - 1) members
/-- `bears` for every element -/
def bearsAll (room : Nat) : List Json → Bool
  | [] => true
  | v :: vs => bears room v && bearsAll room vs
/-- `bears` for every member and its name -/
def bearsMembers (room : Nat) : List (Option String × Json) → Bool
  | [] => true
  | (name, v) :: ms => name.isSome && bears room v && bearsMembers room ms
end

/-- levels of nesting that a document read in one go may have -/
def nestingMax : Nat := 127

end Json

end VisualNovel
