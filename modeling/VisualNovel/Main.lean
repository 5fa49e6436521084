/-
The program at a terminal. What it does is decided by `Program` and `Player`; here the files it asks for become a disk,
lines are read, output is printed and save files are written. A save is written before the player is told of it: when the
file system refuses it, the line is fed once more, to slots that cannot be written.
-/
import Std.Time.DateTime.Timestamp
import VisualNovel.Terminal.Program

namespace VisualNovel.Console

/-- the disk with the file at a path, if it can be read -/
def readFile (disk : Disk) (path : String) : IO Disk := do
  try return disk.plant ⟨path⟩ (← IO.FS.readBinFile path)
  catch _ => return disk

/-- the disk with the files of a directory, if it can be listed, or with the file in its place -/
def readDirectory (disk : Disk) (path : String) : IO Disk := do
  try
    let directory ← IO.FS.realPath path
    (← directory.readDir).foldlM (fun disk entry => readFile disk (path ++ "/" ++ entry.fileName)) disk
  catch _ => readFile disk path

/-- whether files could be written -/
def writeFiles (files : List (Place × ByteArray)) : IO Bool := do
  try
    for (place, bytes) in files do
      IO.FS.createDirAll (Place.toText place.dropLast)
      IO.FS.writeBinFile place.toText bytes
    return true
  catch _ => return false

/-- seconds since 1970 -/
def clock : IO Nat := return (← Std.Time.Timestamp.now).toSecondsSinceUnixEpoch.val.toNat

/-- print and flush -/
def put (outputs : List Output) : IO Unit := do
  let out ← IO.getStdout
  for output in outputs do
    out.putStr output.text
  out.flush

/-- feed one line and write what was saved -/
def feed (player : Player Disk) (scene : Scene Disk) (line : String) : IO (Scene Disk × List Output) := do
  let now ← clock
  let (next, shown) := player.feed now scene line
  if ← writeFiles (scene.contents.newFiles next.contents) then return (next, shown)
  else return player.readOnly.feed now scene line

/-- play a session to its end -/
partial def playOn (player : Player Disk) (scene : Scene Disk) : IO (Scene Disk) := do
  match scene with
  | .closed .. => return scene
  | .opening .. | .prompting _ =>
    let (next, shown) ← feed player scene (← (← IO.getStdin).getLine)
    put shown
    playOn player next

/-- print error lines and leave -/
def leave (exitCode : Nat) (err : List String) : IO UInt32 := do
  for line in err do
    IO.eprintln line
  return exitCode.toUInt32

/-- run the program -/
def run (args : List String) : IO UInt32 := do
  let request := Request.ofArgs args
  let disk ← request.files.foldlM readFile Disk.empty
  let disk ← request.savesDirectory.toList.foldlM readDirectory disk
  match Program.start disk args with
  | .done exitCode out err =>
    put out
    leave exitCode err
  | .session player scene out =>
    put out
    let (exitCode, err) := Program.ending (← playOn player scene)
    leave exitCode err

end VisualNovel.Console

/-- the program -/
def main (args : List String) : IO UInt32 := VisualNovel.Console.run args
