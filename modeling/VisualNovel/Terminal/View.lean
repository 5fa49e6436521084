/-
What the terminal player shows. The view keeps the image of each layer, the music and the last sound; applying directives
to it gives the effects that are worth a line: an image, a cleared layer or other music only when that is a change,
sounds and voices always.
-/
import VisualNovel.Assoc
import VisualNovel.Directive

namespace VisualNovel

/-- something that changed on screen or can be heard -/
inductive Effect where
  | showImage (path layer : String)
  | clearLayer (layer : String)
  | playBgm (path : String)
  | stopBgm
  | playSe (path : String)
  | voice (path : String)
  deriving DecidableEq, Repr

/-- the wording of an effect -/
def Effect.text : Effect → String
  | .showImage path layer => "ShowImage: " ++ path ++ " (" ++ layer ++ ")"
  | .clearLayer layer => "ClearLayer: " ++ layer
  | .playBgm path => "PlayBGM: " ++ path
  | .stopBgm => "StopBGM"
  | .playSe path => "PlaySE: " ++ path
  | .voice path => "Voice: " ++ path

/-- images by layer, the music and the last sound -/
structure View where
  images : List (String × String)
  bgm : Option String
  seLast : Option String
  deriving DecidableEq, Repr

namespace View

/-- nothing shown and nothing heard -/
def empty : View := ⟨[], none, none⟩

/-- the image on a layer -/
def image (v : View) (layer : String) : Option String := v.images.lookup layer

/-- the view after one directive, and the effects of it -/
def applyOne (v : View) : Directive → View × List Effect
  | .showImage layer (some path) =>
    if v.image layer = some path then (v, [])
    else ({ v with images := Assoc.assign layer path v.images }, [.showImage path layer])
  | .showImage layer none =>
    match v.image layer with
    | none => (v, [])
    | some _ => ({ v with images := Assoc.discard layer v.images }, [.clearLayer layer])
  | .playBgm path =>
    if v.bgm = path then (v, [])
    else ({ v with bgm := path }, [match path with | some path => .playBgm path | none => .stopBgm])
  | .playSe path => ({ v with seLast := some path }, [.playSe path])
  | .playVoice path => (v, [.voice path])
  | .say .. | .branch _ => (v, [])

/-- the view after directives, and all effects in order -/
def apply (v : View) : List Directive → View × List Effect
  | [] => (v, [])
  | d :: ds =>
    let (v, effects) := v.applyOne d
    let (v, more) := v.apply ds
    (v, effects ++ more)

end View

end VisualNovel
