/-
The command line. `Request.ofArgs` reads the arguments; `Program.start` does what needs no input, up to the first prompt
of a session, over a disk; `Program.run` plays the session with the text of standard input. What is left of an error is
its message and the messages of its causes.
-/
import VisualNovel.Screenplay.Report
import VisualNovel.Store.Disk
import VisualNovel.Terminal.Player

namespace VisualNovel

/-- a session to play -/
structure PlayRequest where
  screenplay : String
  config : Option String
  saves : Option String
  verbose : Bool
  deriving DecidableEq, Repr

/-- what the arguments ask for -/
inductive Request where
  /-- nothing at all -/
  | nothing
  /-- the help text -/
  | help
  | play (request : PlayRequest)
  | check (screenplay : String)
  /-- something that does not exist; what to tell -/
  | refused (text : String)
  deriving DecidableEq, Repr

namespace Request

/-- the options of a session -/
def withOptions (r : PlayRequest) : List String → Request
  | [] => play r
  | "--debug" :: rest => withOptions { r with verbose := true } rest
  | "--config" :: path :: rest => withOptions { r with config := some path } rest
  | ["--config"] => refused "--config needs a file"
  | "--saves" :: path :: rest => withOptions { r with saves := some path } rest
  | ["--saves"] => refused "--saves needs a directory"
  | other :: _ => refused ("Unknown option '" ++ other ++ "'")

/-- what the arguments ask for -/
def ofArgs : List String → Request
  | [] => nothing
  | "play" :: screenplay :: options => withOptions ⟨screenplay, none, none, false⟩ options
  | "check" :: screenplay :: _ => check screenplay
  | ["play"] => refused "Missing screenplay file path"
  | ["check"] => refused "Missing screenplay file path"
  | "--help" :: _ => help
  | "-h" :: _ => help
  | command :: _ => refused ("Unknown command '" ++ command ++ "'")

/-- the files that are read before the first prompt -/
def files : Request → List String
  | play r => r.screenplay :: r.config.toList
  | check screenplay => [screenplay]
  | nothing | help | refused _ => []

/-- the directory of save files -/
def savesDirectory : Request → Option String
  | play r => r.saves
  | nothing | help | check _ | refused _ => none

end Request

namespace Program

/-- the help text -/
def usage : List String :=
  ["tsuzuri - Visual Novel Screenplay Engine", "", "USAGE:",
    "    tsuzuri play <screenplay.json> [--config <file>] [--saves <dir>] [--debug]",
    "    tsuzuri check <screenplay.json>", "", "COMMANDS:",
    "    play <file>     Play screenplay in terminal player mode",
    "    check <file>    Validate a screenplay and report unresolved strings",
    "    --help, -h      Show this help message", "", "OPTIONS:",
    "    --config <file>   Engine configuration (JSON)",
    "    --saves <dir>     Directory for save slots",
    "    --debug           Show cursor and presentation state, verbose engine logs", "",
    "Set RUST_LOG=tsuzuri=debug to see engine logs."]

/-- the messages of a load error and of its causes -/
def loadChain : LoadError → List String
  | .malformed reason => [(LoadError.malformed reason).message, reason.message]
  | e => [e.message]

/-- the messages of an engine error and of its causes -/
def engineChain : EngineError → List String
  | .load reason => (EngineError.load reason).message :: loadChain reason
  | .walk reason => [(EngineError.walk reason).message, reason.message]
  | .slot reason => [(EngineError.slot reason).message, reason.message]
  | .invalid text => [(EngineError.invalid text).message]

/-- an error and its causes on one line -/
def errorLine (chain : List String) : String := "Error: " ++ ": ".intercalate chain

/-- the text of the file at a path -/
def readText (disk : Disk) (path : String) : Option String :=
  if path = "" ∨ path.endsWith "/" then none else (disk.read ⟨path⟩).toOption.bind String.fromUTF8?

/-- how a program ends, or the session it goes on with -/
inductive Outcome where
  | done (exitCode : Nat) (out : List Output) (err : List String)
  | session (player : Player Disk) (scene : Scene Disk) (out : List Output)

/-- the end of a program that failed -/
def failed (out : List Output) (chain : List String) : Outcome := .done 1 out [errorLine chain]

/-- the configuration of a session, or the messages of why there is none -/
def readConfig (disk : Disk) : Option String → Except (List String) Config
  | none => .ok .standard
  | some path =>
    let context := "Failed to load config '" ++ path ++ "'"
    match readText disk path with
    | none => .error [context, "Failed to read config " ++ path]
    | some text =>
      match Json.decode Config.ofJson (Json.ofText text) with
      | .error reason => .error [context, "Invalid config: " ++ reason.message, reason.message]
      | .ok config => .ok config

/-- the screenplay in a file -/
def readScreenplay (disk : Disk) (path : String) : Except LoadError Screenplay :=
  match readText disk path with
  | none => .error (.unreadable path)
  | some text => Screenplay.ofSource (Json.ofText text)

/-- what a failed load is put under -/
def loadContext (path : String) : String := "Failed to load '" ++ path ++ "'"

/-- prepare a session -/
def startPlay (disk : Disk) (r : PlayRequest) : Outcome :=
  match readConfig disk r.config with
  | .error chain => failed [] chain
  | .ok config =>
    let config := if r.verbose then { config with filter := .verbose } else config
    match readScreenplay disk r.screenplay with
    | .error reason => failed [] (loadContext r.screenplay :: engineChain (.load reason))
    | .ok screenplay =>
      let slots := r.saves.map fun base => SaveSlots.mk (.folder Disk.system ⟨base⟩) config.slots
      .session ⟨.make screenplay config, slots, r.verbose⟩ (Player.opened disk) Player.controls

/-- report on a screenplay -/
def check (disk : Disk) (path : String) : Outcome :=
  match readScreenplay disk path with
  | .error reason => failed [] (loadContext path :: loadChain reason)
  | .ok screenplay => .done 0 ((Report.ofScreenplay screenplay).lines.map .line) []

/-- do what the arguments ask for, up to the first prompt -/
def start (disk : Disk) (args : List String) : Outcome :=
  match Request.ofArgs args with
  | .nothing => .done 1 (usage.map .line) []
  | .help => .done 0 (usage.map .line) []
  | .refused text => .done 1 (usage.map .line) ["Error: " ++ text, ""]
  | .check path => check disk path
  | .play r => startPlay disk r

/-- the lines of standard input: each ends with a line feed, but for the last, which may not -/
def inputLines (text : String) : List String :=
  match (text.splitOn "\n").reverse with
  | "" :: lines => lines.reverse
  | lines => lines.reverse

/-- exit code, standard output and standard error of a program, and the disk after it -/
structure Transcript where
  exitCode : Nat
  out : String
  err : String
  disk : Disk

/-- a text with a line per element -/
def unlines (lines : List String) : String := String.join (lines.map (· ++ "\n"))

/-- exit code and standard error of a session -/
def ending {σ : Type} (scene : Scene σ) : Nat × List String :=
  match scene.failure with
  | some e => (1, [errorLine (engineChain e)])
  | none => (0, [])

/-- a program that is given all of its input; a session that is not over then is left where it stands -/
def run (disk : Disk) (args : List String) (input : String) (now : Nat) : Transcript :=
  match start disk args with
  | .done exitCode out err => ⟨exitCode, String.join (out.map Output.text), unlines err, disk⟩
  | .session player scene out =>
    let (scene, shown) := player.run now scene (inputLines input)
    let (exitCode, err) := ending scene
    ⟨exitCode, String.join ((out ++ shown).map Output.text), unlines err, scene.contents⟩

end Program

end VisualNovel
