/-
The terminal player, as a state machine fed with lines.

A `Player` is what does not change: the production, the save slots if saving is on, and whether the state of the engine
is shown. A `Scene` is where the session stands: before the first step, at a prompt, or over. `Player.feed` takes one
line: the scene after it and what is printed. Commands that do not advance the screenplay come back to the same prompt.
`Player.run` feeds line after line.

Only an engine error at a step, whether the first one, one after Enter or one after loading, ends a session with a
failure; whatever else goes wrong is told to the player, who stays at the prompt.
-/
import VisualNovel.SaveSlots
import VisualNovel.Terminal.Input
import VisualNovel.Terminal.View

namespace VisualNovel

/-- something printed -/
inductive Output where
  /-- a line -/
  | line (text : String)
  /-- a question, with the answer expected on the same line -/
  | prompt (text : String)
  /-- a cleared screen -/
  | clear
  deriving DecidableEq, Repr

/-- the characters of an output -/
def Output.text : Output → String
  | .line text => text ++ "\n"
  | .prompt text => text ++ " "
  | .clear => "\x1b[2J\x1b[H"

/-- what one session does not change -/
structure Player (σ : Type) where
  production : Production
  slots : Option (SaveSlots σ)
  /-- show where the engine stands after each step -/
  verbose : Bool

/-- a session at a prompt -/
structure Session (σ : Type) where
  engine : Engine
  contents : σ
  view : View
  /-- the result on screen -/
  shown : StepResult

/-- where a session stands -/
inductive Scene (σ : Type) where
  /-- the controls are on screen, nothing has been played -/
  | opening (engine : Engine) (contents : σ)
  /-- a line or choices are on screen -/
  | prompting (session : Session σ)
  /-- the session is over, perhaps because a step failed -/
  | closed (contents : σ) (failure : Option EngineError)

namespace Scene

variable {σ : Type}

/-- the contents of the medium that saves go to -/
def contents : Scene σ → σ
  | opening _ contents => contents
  | prompting s => s.contents
  | closed contents _ => contents

/-- the error that ended the session -/
def failure : Scene σ → Option EngineError
  | closed _ failure => failure
  | opening .. | prompting _ => none

end Scene

namespace Player

variable {σ : Type}

/-- the name of the program and how to play -/
def controls : List Output :=
  ["=== tsuzuri Screenplay Player ===", "", "Controls:", "  Enter:  next", "  1-9:    select choice",
    "  s <n>:  save to slot n", "  l <n>:  load slot n", "  list:   list saves", "  v:      replay voice",
    "  q:      quit", "", "Press Enter to start..."].map .line

/-- effects, if there are any -/
def effectLines (effects : List Effect) : List Output :=
  if effects.isEmpty then []
  else .line "[Effects]" :: effects.map (fun e => .line ("  " ++ e.text)) ++ [.line ""]

/-- a directive that is read rather than seen or heard -/
def spokenLines : Directive → List Output
  | .say speaker text mode =>
    let name : List Output :=
      match mode with
      | .display => [.line (speaker ++ ":")]
      | .special => [.line ("【" ++ speaker ++ "】")]
      | .hidden => []
    name ++ [.line text, .line ""]
  | .branch choices =>
    .line "--- Choice ---" ::
      choices.zipIdx.map (fun (choice, i) => .line (toString (i + 1) ++ ". " ++ choice)) ++ [.line ""]
  | _ => []

/-- where the engine stands -/
def stateLines (p : Player σ) (e : Engine) : List Output :=
  let cursor := e.head.cursor
  let position : List Output :=
    match p.production.setting.screenplay.blockAt cursor with
    | .ok block =>
      let id := block.id
      let index := cursor.block
      let instruction := cursor.instruction
      [.line s!"block={id} (index {index}) instruction={instruction}"]
    | .error _ => []
  let orDash (text : Option String) : String := text.getD "-"
  .line "[debug]" :: position ++
    [.line ("bg=" ++ orDash e.stage.background ++ " portrait=" ++ orDash e.stage.portrait ++ " bgm=" ++
      orDash e.stage.bgm), .line ""]

/-- what asks for the next line -/
def promptLines (next : NextAction) : List Output :=
  match next with
  | .waitBranch => [.prompt "Select (1-9):"]
  | .waitUser | .halt => []

/-- show the result of a step, and ask for a line unless it was the last -/
def present (p : Player σ) (engine : Engine) (contents : σ) (view : View) (result : StepResult) :
    Scene σ × List Output :=
  let (view, effects) := view.apply result.directives
  let shown := effectLines effects ++ result.directives.flatMap spokenLines ++
    if p.verbose then p.stateLines engine else []
  match result.next with
  | .halt => (.closed contents none, shown ++ [.line "", .line "== THE END =="])
  | next => (.prompting ⟨engine, contents, view, result⟩, shown ++ promptLines next)

/-- step the engine and show the result -/
def advance (p : Player σ) (engine : Engine) (contents : σ) (view : View) : Scene σ × List Output :=
  let r := p.production.step engine
  match r.answer with
  | .error e => (.closed contents (some e), [])
  | .ok result => p.present r.engine contents view result

/-- answer the player and ask again -/
def answer (s : Session σ) (text : List String) : Scene σ × List Output :=
  (.prompting s, text.map .line ++ promptLines s.shown.next)

/-- what the player is told when saving is off -/
def savingOff : String := "Saving is disabled (use --saves <dir>)."

/-- take a choice -/
def choose (p : Player σ) (index : Nat) (s : Session σ) : Scene σ × List Output :=
  let r := p.production.choose index s.engine
  match r.answer with
  | .ok result =>
    let (scene, shown) := p.present r.engine s.contents s.view result
    (scene, .clear :: shown)
  | .error e => answer { s with engine := r.engine } [e.message]

/-- save to a slot -/
def save (p : Player σ) (slots : SaveSlots σ) (slot now : Nat) (s : Session σ) : Scene σ × List Output :=
  let r := slots.save slot (p.production.capture now s.engine) s.contents
  let told :=
    match r.answer with
    | .ok true => s!"Saved to slot {slot}."
    | .ok false => "Save failed."
    | .error e => e.message
  answer { s with contents := r.contents } [told]

/-- why a slot could not be loaded -/
def loadFailure (slot : Nat) : EngineError → String
  | .slot e => e.message
  | .walk e =>
    if e.isStructural then s!"Slot {slot} does not fit this screenplay: " ++ e.message
    else s!"Cannot load slot {slot}: " ++ (EngineError.walk e).message
  | e => s!"Cannot load slot {slot}: " ++ e.message

/-- load a slot: start a new view with the presentation of the save and step on from there -/
def load (p : Player σ) (slots : SaveSlots σ) (slot : Nat) (s : Session σ) : Scene σ × List Output :=
  let restored := p.production.restoreSlot slots slot s.engine s.contents
  let s := { s with engine := restored.reply.engine, contents := restored.contents }
  match restored.reply.answer with
  | .error e => answer s [loadFailure slot e]
  | .ok none => answer s [s!"Slot {slot} is empty."]
  | .ok (some directives) =>
    let (view, effects) := View.empty.apply directives
    let (scene, shown) := p.advance s.engine s.contents view
    (scene, effectLines effects ++ .line s!"(loaded slot {slot})" :: shown)

/-- one line per save; the slot number is set to the right of two columns -/
def entryLine (entry : SlotEntry) : String :=
  let number := toString entry.slot
  let block := entry.state.blockIndex
  let time := entry.state.savedAt
  "  " ++ String.ofList (List.replicate (2 - number.length) ' ') ++ number ++ s!": block {block} (saved at {time})"

/-- list the saves -/
def list (slots : SaveSlots σ) (s : Session σ) : Scene σ × List Output :=
  let (entries, contents, _) := slots.list s.contents
  answer { s with contents } (entries.map entryLine)

/-- carry out one command at a prompt -/
def obey (p : Player σ) (now : Nat) (s : Session σ) : Input → Scene σ × List Output
  | .quit => (.closed s.contents none, [.line "Goodbye!"])
  | .next =>
    match s.shown.next with
    | .waitUser => p.advance s.engine s.contents s.view
    | .waitBranch | .halt => answer s ["Select a choice first."]
  | .choose index =>
    match s.shown.next with
    | .waitBranch => p.choose index s
    | .waitUser | .halt => answer s ["Press Enter to continue."]
  | .voice =>
    match (p.production.replayVoice s.engine).1 with
    | some cue => answer s ["[Voice] " ++ cue.path]
    | none => answer s ["[No voice for this line]"]
  | .save slot =>
    match p.slots with
    | some slots => p.save slots slot now s
    | none => answer s [savingOff]
  | .load slot =>
    match p.slots with
    | some slots => p.load slots slot s
    | none => answer s [savingOff]
  | .list =>
    match p.slots with
    | some slots => list slots s
    | none => answer s [savingOff]
  | .invalid hint => answer s [hint]

/-- the scene after one line, and what is printed -/
def feed (p : Player σ) (now : Nat) (scene : Scene σ) (line : String) : Scene σ × List Output :=
  match scene with
  | .opening engine contents => p.advance engine contents .empty
  | .prompting s => p.obey now s (.ofLine line)
  | .closed contents failure => (.closed contents failure, [])

/-- the scene after lines, and all that is printed -/
def run (p : Player σ) (now : Nat) (scene : Scene σ) : List String → Scene σ × List Output
  | [] => (scene, [])
  | line :: lines =>
    match scene with
    | .closed contents failure => (.closed contents failure, [])
    | scene =>
      let (scene, shown) := p.feed now scene line
      let (scene, more) := p.run now scene lines
      (scene, shown ++ more)

/-- the player with slots that cannot be written -/
def readOnly (p : Player σ) : Player σ :=
  { p with slots := p.slots.map fun s => { s with medium := s.medium.readOnly } }

/-- a session before its first line -/
def opened (contents : σ) : Scene σ := .opening .start contents

end Player

end VisualNovel
