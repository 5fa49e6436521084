/-
What a host is told to do. Notifications become directives one by one (`Directive.ofNotification`): images to show or
clear per layer, music, sounds, lines to say and choices to offer. The result of a step is the directives since the last
one and what the host does next. Both have document forms.
-/
import VisualNovel.Stage

namespace VisualNovel

/-- one thing for the host to do -/
inductive Directive where
  /-- show a line; the speaker is empty for narration -/
  | say (speaker text : String) (mode : DisplayMode)
  /-- show an image on a layer, or clear the layer -/
  | showImage (layer : String) (path : Option String)
  /-- play music, or stop it -/
  | playBgm (path : Option String)
  /-- play a sound effect -/
  | playSe (path : String)
  /-- play a voice -/
  | playVoice (path : String)
  /-- offer choices -/
  | branch (choices : List String)
  deriving DecidableEq, Repr

namespace Directive

/-- the layer behind everything -/
def backgroundLayer : String := "background"

/-- the layer of the character -/
def portraitLayer : String := "portrait"

/-- show or clear the background -/
def showBackground (path : Option String) : Directive := showImage backgroundLayer path

/-- show or clear the portrait -/
def showPortrait (path : Option String) : Directive := showImage portraitLayer path

/-- the directives of a command -/
def ofCommand (a : Assets) : Command → List Directive
  | .setBackground image => [showBackground (image.map a.background)]
  | .setPortrait image => [showPortrait (image.map a.portrait)]
  | .showCg name => [showPortrait none, showBackground (some (a.cg name))]
  | .transition image => [showBackground (some ((image.map a.background).getD a.blackScreen))]
  | .playBgm track => [playBgm ((playedTrack track).map a.bgm)]
  | .playSe name => [playSe (a.se name)]
  | .dialog _ | .decision _ | .incomplete _ | .unknown _ => []

/-- the directives of a notification -/
def ofNotification (a : Assets) : Notification → List Directive
  | .instruction i => ofCommand a i.command
  | .dialogLine l => [say l.speech.speaker l.speech.content l.speech.mode]
  | .decision labels => [branch labels]
  | .restoreGraphics background portrait => [showBackground background, showPortrait portrait]
  | .restoreMusic track => [playBgm (track.map a.bgm)]
  | .resetLineCounters => []

/-- a directive document -/
def document (type : String) (members : List (String × Json)) : Json :=
  .object [("type", .text type), ("args", .object members)]

/-- the document of a directive -/
def toJson : Directive → Json
  | say speaker text mode =>
    document "Say" [("speaker", .text speaker), ("text", .text text), ("mode", .text mode.name)]
  | showImage layer path => document "ShowImage" [("layer", .text layer), ("path", .optText path)]
  | playBgm path => document "PlayBgm" [("path", .optText path)]
  | playSe path => document "PlaySe" [("path", .text path)]
  | playVoice path => document "PlayVoice" [("path", .text path)]
  | branch choices => document "Branch" [("choices", .texts choices)]

/-- the variants of a directive document -/
inductive Variant where
  | say
  | showImage
  | playBgm
  | playSe
  | playVoice
  | branch
  deriving DecidableEq, Repr

/-- variants by name -/
def Variant.choices : List (String × Variant) :=
  [("Say", .say), ("ShowImage", .showImage), ("PlayBgm", .playBgm), ("PlaySe", .playSe), ("PlayVoice", .playVoice),
    ("Branch", .branch)]

/-- a directive from its tag and content -/
def ofTagged (t : Json.Tagged Variant) : Except Json.Misfit Directive := do
  let args ← t.record "args"
  let fields (names : List String) := Json.Fields.ofObject names "a content with members" args
  match t.tag with
  | .say =>
    let f ← fields ["speaker", "text", "mode"]
    return .say (← f.required "speaker" Json.asText) (← f.required "text" Json.asText)
      (← f.required "mode" (Json.asChoice t.kept DisplayMode.choices))
  | .showImage =>
    let f ← fields ["layer", "path"]
    return .showImage (← f.required "layer" Json.asText) (← f.optional "path" Json.asText)
  | .playBgm =>
    let f ← fields ["path"]
    return .playBgm (← f.optional "path" Json.asText)
  | .playSe =>
    let f ← fields ["path"]
    return .playSe (← f.required "path" Json.asText)
  | .playVoice =>
    let f ← fields ["path"]
    return .playVoice (← f.required "path" Json.asText)
  | .branch =>
    let f ← fields ["choices"]
    return .branch (← f.required "choices" (Json.asList Json.asText))

/-- a directive, `around` containers deep in its document -/
def ofJson (around : Nat) : Json.Decoder Directive := fun v =>
  Json.tagged "type" "args" Variant.choices around v >>= ofTagged

end Directive

/-- what the host does after carrying out the directives of a step -/
inductive NextAction where
  /-- wait for the player to go on -/
  | waitUser
  /-- wait for the player to pick a choice -/
  | waitBranch
  /-- the screenplay has ended -/
  | halt
  deriving DecidableEq, Repr

/-- the name of an action in documents -/
def NextAction.name : NextAction → String
  | .waitUser => "WaitUser"
  | .waitBranch => "WaitBranch"
  | .halt => "Halt"

/-- actions by name -/
def NextAction.choices : List (String × NextAction) :=
  [("WaitUser", .waitUser), ("WaitBranch", .waitBranch), ("Halt", .halt)]

/-- the outcome of one step -/
structure StepResult where
  next : NextAction
  directives : List Directive
  deriving DecidableEq, Repr

namespace StepResult

/-- the choices on offer, if there are any -/
def choices (r : StepResult) : Option (List String) :=
  r.directives.findSome? fun
    | .branch choices => some choices
    | _ => none

/-- the document of a result -/
def toJson (r : StepResult) : Json :=
  .object [("next", .text r.next.name), ("directives", .arr (r.directives.map Directive.toJson))]

/-- a result -/
def ofJson : Json.Decoder StepResult := fun v => do
  let f ← Json.Fields.ofRecord ["next", "directives"] "a step result" v
  let next ← f.required "next" (Json.asChoice false NextAction.choices)
  let directives ← f.required "directives" (Json.asList (Directive.ofJson 2))
  return ⟨next, directives⟩

end StepResult

end VisualNovel
