/-
Who says what in a line of script text.

A line such as `守「こんにちは」` names its speaker before the first opening bracket. The name is accepted when the text
before the bracket is short and the name is on the roster; any other line is narration: no speaker, the whole line. The
name may carry marks: a middle dot on both sides hides the name from the player, two on both sides make it special, and a
colon after it is dropped. `Speech.ofLine` is the whole rule.

Brackets are found, and the line is cut, at offsets in bytes, while a name is measured in characters. A cut in the middle of
a character would be a fault, and `Speech.classify?` says so: it gives nothing then.
-/
import VisualNovel.Text.Blank
import VisualNovel.Text.Offset
import VisualNovel.Json.Decode

namespace VisualNovel

/-- how a speaker's name is shown -/
inductive DisplayMode where
  /-- the name is shown -/
  | display
  /-- no name is shown: narration, or a concealed speaker -/
  | hidden
  /-- the name is shown with emphasis -/
  | special
  deriving DecidableEq, Repr

/-- the name of a display mode in documents -/
def DisplayMode.name : DisplayMode → String
  | .display => "Display"
  | .hidden => "Hidden"
  | .special => "Special"

/-- display modes by name -/
def DisplayMode.choices : List (String × DisplayMode) :=
  [("Display", .display), ("Hidden", .hidden), ("Special", .special)]

/-- a classified line -/
structure Speech where
  speaker : String
  content : String
  mode : DisplayMode
  deriving DecidableEq, Repr

/-- narration: no speaker and the whole line -/
def Speech.narration (line : String) : Speech := ⟨"", line, .hidden⟩

/-- whether somebody speaks -/
def Speech.hasSpeaker (s : Speech) : Bool := s.speaker ≠ ""

/-- the names that are accepted as speakers -/
structure Roster where
  names : List String
  deriving DecidableEq, Repr

/-- whether a name is on the roster -/
def Roster.contains (r : Roster) (name : String) : Bool := name ∈ r.names

/-- number of different names -/
def Roster.size (r : Roster) : Nat := r.names.eraseDups.length

namespace Speech

/-- the bracket that opens what is said -/
def openQuote : Char := '「'

/-- the bracket that closes what is said -/
def closeQuote : Char := '」'

/-- the mark around a name -/
def mark : Char := '・'

/-- texts of this length or longer are never names -/
def nameLimit : Nat := 8

/-- whether a text starts and ends with `count` marks -/
def isMarked (count : Nat) (cs : List Char) : Bool :=
  let marks := List.replicate count mark
  marks.isPrefixOf cs && marks.isSuffixOf cs

/-- the characters between two positions, counted in characters -/
def charSlice? (start stop : Nat) (cs : List Char) : Option (List Char) :=
  let first := Text.offsetOf start cs
  let last := Text.offsetOf stop cs
  if last ≤ first then some [] else Text.slice? first last cs

/-- the name without one final colon and the blanks before it -/
def dropColon (cs : List Char) : List Char :=
  match cs.reverse with
  | ':' :: front => Text.trimEnd front.reverse
  | '：' :: front => Text.trimEnd front.reverse
  | _ => cs

/-- the name in a speaker text, and how it is shown; two marks take three characters off the end -/
def nameOf? (candidate : List Char) : Option (List Char × DisplayMode) :=
  let count := candidate.length
  if 4 < count ∧ isMarked 2 candidate then
    (charSlice? 2 (count - 3) candidate).map fun name => (Text.trim name, .special)
  else if 2 < count ∧ isMarked 1 candidate then
    (charSlice? 1 (count - 1) candidate).map fun name => (Text.trim name, .hidden)
  else some (dropColon candidate, .display)

/-- what is said: from behind the opening bracket at `opening` to the last closing bracket behind it, or to the end -/
def contentOf? (opening : Nat) (line : List Char) : Option (List Char) :=
  let start := opening + openQuote.utf8Size
  let body := match Text.rfind? closeQuote line with
    | some closing => if opening < closing then Text.slice? start closing line else Text.from? start line
    | none => Text.from? start line
  body.map Text.trim

/-- the classified form of a line; none if it were cut where no character starts -/
def classify? (roster : Roster) (line : String) : Option Speech :=
  match Text.find? openQuote line.toList with
  | none => some (narration line)
  | some opening =>
    if opening = 0 then some (narration line)
    else do
      let before ← Text.upTo? opening line.toList
      let candidate := Text.trim before
      if candidate = [] ∨ nameLimit ≤ candidate.length then some (narration line)
      else do
        let content ← contentOf? opening line.toList
        let (name, mode) ← nameOf? candidate
        let name := String.ofList name
        some (if roster.contains name then ⟨name, String.ofList content, mode⟩ else narration line)

/-- the classified form of a line, or of no line; a fault, which there is none, would leave narration -/
def ofLine (roster : Roster) (line : Option String) : Speech :=
  let line := line.getD ""
  (classify? roster line).getD (narration line)

end Speech

/-- a line that the walk has come to -/
structure DialogLine where
  speech : Speech
  /-- index of the block under the cursor once the walk has gone on from the line -/
  blockIndex : Nat
  /-- the line's authored number, if it has one -/
  lineNumber : Option Int
  deriving DecidableEq, Repr

/-- the document of a dialog line: the members of the speech stand in it side by side with the others -/
def DialogLine.toJson (l : DialogLine) : Json :=
  .object [("speakerName", .text l.speech.speaker), ("content", .text l.speech.content),
    ("displayMode", .text l.speech.mode.name), ("blockIndex", .nat l.blockIndex),
    ("lineNumber", match l.lineNumber with | some n => .int n | none => .null)]

/-- whether the members that are kept for the speech, names other than `own`, can be kept -/
def bearsOthers (room : Nat) (own : List String) (ms : List (Option String × Json)) : Bool :=
  ms.all fun (name, v) => own.any (some · == name) || v.bears room

/-- a dialog line, `around` containers deep in its document. Its own members are read in place; all others are kept for
the speech, so they must bear keeping even if nobody asks for them. -/
def DialogLine.ofJson (around : Nat) : Json.Decoder DialogLine := fun v =>
  match v with
  | .obj ms => do
    let own := ["blockIndex", "lineNumber"]
    let f ← Json.Fields.ofObject (own ++ ["speakerName", "content", "displayMode"]) "a dialog line" v
    if bearsOthers (Json.nestingMax - (around + 1)) own ms then
      let speaker ← f.required "speakerName" Json.asText
      let content ← f.required "content" Json.asText
      let mode ← f.required "displayMode" (Json.asChoice true DisplayMode.choices)
      let blockIndex ← f.required "blockIndex" Json.asSize
      let lineNumber ← f.optional "lineNumber" Json.asInt32
      return ⟨⟨speaker, content, mode⟩, blockIndex, lineNumber⟩
    else .error .garbled
  | v => .error (.kind v.kindName "a dialog line")

end VisualNovel
