/-
The stage: what is on screen and what is playing, as far as notifications tell. A save takes it from here, and a restored
save puts it back. Per channel the last one to write decides; an instruction with too few texts writes nothing.
-/
import VisualNovel.Assets
import VisualNovel.Log
import VisualNovel.Notification
import VisualNovel.SaveState

namespace VisualNovel

/-- a music track to play; the empty name stops the music -/
def playedTrack (track : Option String) : Option String := track.filter (· ≠ "")

namespace Presentation

/-- the presentation after a command -/
def perform (a : Assets) (p : Presentation) : Command → Presentation
  | .setBackground image => { p with background := image.map a.background }
  | .setPortrait image => { p with portrait := image.map a.portrait }
  | .showCg name => { p with background := some (a.cg name), portrait := none }
  | .transition image => { p with background := some ((image.map a.background).getD a.blackScreen) }
  | .playBgm track => { p with bgm := playedTrack track }
  | .dialog _ | .decision _ | .playSe _ | .incomplete _ | .unknown _ => p

/-- the presentation after a notification -/
def hear (a : Assets) (p : Presentation) : Notification → Presentation
  | .instruction i => p.perform a i.command
  | .restoreGraphics background portrait => { p with background, portrait }
  | .restoreMusic track => { p with bgm := track }
  | .dialogLine _ | .decision _ | .resetLineCounters => p

/-- what the stage logs about a notification -/
def remarks : Notification → List Record
  | .instruction i =>
    match i.command with
    | .incomplete kind => [.incomplete kind]
    | _ => []
  | _ => []

/-- the presentation after a sequence of notifications, from an empty stage -/
def after (a : Assets) (ns : List Notification) : Presentation := ns.foldl (hear a) .empty

theorem after_concat (a : Assets) (ns : List Notification) (n : Notification) :
    after a (ns ++ [n]) = (after a ns).hear a n := by
  simp [after]

end Presentation

end VisualNovel
