/-
What the walk tells those who watch it, in program order: every instruction it reads, every line and decision it
suspends on, the reset of line counters after a choice, and the two parts of a presentation that a restored save puts
back. `Notification.toJson` and `Notification.ofJson` are its document form, a tag and a content.
-/
import VisualNovel.Speech
import VisualNovel.Instruction

namespace VisualNovel

/-- one notification -/
inductive Notification where
  /-- an instruction was read; it is told before anything comes of it -/
  | instruction (instruction : Resolved)
  /-- a line is ready -/
  | dialogLine (line : DialogLine)
  /-- a decision is ready -/
  | decision (labels : List String)
  /-- a choice was taken: line counters start over -/
  | resetLineCounters
  /-- background and portrait of a restored save -/
  | restoreGraphics (background portrait : Option String)
  /-- music of a restored save -/
  | restoreMusic (track : Option String)
  deriving DecidableEq, Repr

namespace Notification

/-- the event name; instructions go by their tag -/
def name : Notification → String
  | instruction i => i.tag
  | dialogLine _ => "PlayDialogInternal"
  | decision _ => "ShowDecisionInternal"
  | resetLineCounters => "ResetLineCounter"
  | restoreGraphics .. => "RestoreGraphics"
  | restoreMusic _ => "RestoreMusic"

/-- the variants of a notification document -/
inductive Variant where
  | instruction
  | dialogLine
  | decision
  | resetLineCounters
  | restoreGraphics
  | restoreMusic
  deriving DecidableEq, Repr

/-- variants by name -/
def Variant.choices : List (String × Variant) :=
  [("Instruction", .instruction), ("DialogLine", .dialogLine), ("Decision", .decision),
    ("ResetLineCounters", .resetLineCounters), ("RestoreGraphics", .restoreGraphics),
    ("RestoreMusic", .restoreMusic)]

/-- a notification document with a content -/
def document (type : String) (detail : Json) : Json := .object [("type", .text type), ("detail", detail)]

/-- the document of a notification -/
def toJson : Notification → Json
  | instruction i => document "Instruction" i.toJson
  | dialogLine l => document "DialogLine" l.toJson
  | decision labels => document "Decision" (.object [("labels", .texts labels)])
  | resetLineCounters => .object [("type", .text "ResetLineCounters")]
  | restoreGraphics background portrait =>
    document "RestoreGraphics" (.object [("background", .optText background), ("portrait", .optText portrait)])
  | restoreMusic track => document "RestoreMusic" (.object [("track", .optText track)])

/-- a notification from its tag and content, `around` containers deep in its document -/
def ofTagged (around : Nat) (t : Json.Tagged Variant) : Except Json.Misfit Notification := do
  match t.tag with
  | .instruction => return .instruction (← Resolved.ofJson (← t.record "detail"))
  | .dialogLine => return .dialogLine (← DialogLine.ofJson (around + 1) (← t.record "detail"))
  | .decision =>
    let f ← Json.Fields.ofObject ["labels"] "a content with members" (← t.record "detail")
    return .decision (← f.required "labels" (Json.asList Json.asText))
  | .resetLineCounters =>
    match t.content with
    | none | some .null => return .resetLineCounters
    | some v => .error (.kind v.kindName "no content")
  | .restoreGraphics =>
    let f ← Json.Fields.ofObject ["background", "portrait"] "a content with members" (← t.record "detail")
    return .restoreGraphics (← f.optional "background" Json.asText) (← f.optional "portrait" Json.asText)
  | .restoreMusic =>
    let f ← Json.Fields.ofObject ["track"] "a content with members" (← t.record "detail")
    return .restoreMusic (← f.optional "track" Json.asText)

/-- a notification, `around` containers deep in its document -/
def ofJson (around : Nat) : Json.Decoder Notification := fun v =>
  Json.tagged "type" "detail" Variant.choices around v >>= ofTagged around

end Notification

end VisualNovel
