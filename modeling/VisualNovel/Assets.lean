/-
Where assets lie. A screenplay names images, music, sounds and voices; the paths are plain strings under one base
directory, so a host may use them as file names or addresses. Full-screen pictures are named in capitals, and a voice
file by its key, its event and its line, the numbers padded with zeros.
-/
import VisualNovel.Text.Capital
import VisualNovel.Text.Numeral
import VisualNovel.Instruction

namespace VisualNovel

/-- the base directory of all assets -/
structure Assets where
  baseDir : String
  deriving DecidableEq, Repr

namespace Assets

/-- the base directory that is used when none is given -/
def standard : Assets := ⟨"/assets"⟩

/-- assets under a directory; slashes at its end are dropped -/
def ofDir (dir : String) : Assets := ⟨String.ofList (dir.toList.reverse.dropWhile (· = '/')).reverse⟩

/-- a background image -/
def background (a : Assets) (image : Image) : String :=
  a.baseDir ++ "/scenes/BG/" ++ image.folder ++ "/" ++ image.name ++ ".webp"

/-- a character portrait -/
def portrait (a : Assets) (image : Image) : String :=
  a.baseDir ++ "/scenes/Portraits/" ++ image.folder ++ "/" ++ image.name ++ ".webp"

/-- a full-screen picture, by its name in capitals -/
def cg (a : Assets) (name : String) : String :=
  let name := Text.upcase name
  a.baseDir ++ "/scenes/CG/" ++ name ++ "/" ++ name ++ ".webp"

/-- the black screen, shown when a transition goes to no background -/
def blackScreen (a : Assets) : String := a.cg "BLACK"

/-- a music track -/
def bgm (a : Assets) (track : String) : String := a.baseDir ++ "/audio/bgm/" ++ track ++ ".mp3"

/-- a sound effect -/
def se (a : Assets) (name : String) : String := a.baseDir ++ "/audio/se/" ++ name ++ ".mp3"

/-- the voice of one line: key, event and line number, the latter with at least three digits -/
def voice (a : Assets) (key event : String) (line : Nat) : String :=
  a.baseDir ++ "/audio/voice/" ++ key ++ "." ++ event ++ "." ++ String.ofList (Text.padded 3 line) ++ ".ogg"

end Assets

/-- the event name of a block: its position counted from one, with at least four digits. Positions are sizes, so this is the
name of every block but the one at `Text.sizeMax`, which no screenplay has. -/
def eventName (blockIndex : Nat) : String := "REN" ++ String.ofList (Text.padded 4 (blockIndex + 1))

end VisualNovel
