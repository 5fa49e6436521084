/-
Screenplay instructions. An instruction arrives as a tag, integers and string tokens; only dialog and decisions matter to
the walk, all other kinds speak to those who watch it. `Kind.ofTag` is the closed vocabulary of tags, unknown ones
included, and `Resolved.command` the typed view of an instruction whose tokens have been resolved.

A kind with too few texts is `Command.incomplete`. For an image the text "0" in either place means none
(`Image.ofTexts`). Its two texts are looked up by position once there are enough of them; looking beyond the texts would be
a fault, and `Resolved.command?` says so: it gives nothing then. It always gives something (`Resolved.command?_eq`).
-/
import VisualNovel.Json.Decode

namespace VisualNovel

/-- an instruction as it is stored: its texts are tokens, some of which refer to the text pool -/
structure Instruction where
  tag : String
  params : List Int
  tokens : List String
  deriving DecidableEq, Repr

/-- an instruction whose tokens have been resolved to texts -/
structure Resolved where
  tag : String
  params : List Int
  texts : List String
  deriving DecidableEq, Repr

/-- the kinds of instruction; a tag outside the vocabulary is kept as it is -/
inductive Kind where
  | playDialog
  | showDecision
  | playBgm
  | playSe
  | setBgImg
  | setCharaImg
  | showCg
  | transitionToGraphics
  | unknown (tag : String)
  deriving DecidableEq, Repr

/-- the kind that a tag names; the transition has two tags -/
def Kind.ofTag (tag : String) : Kind :=
  match tag with
  | "PlayDialog" => .playDialog
  | "ShowDecision" => .showDecision
  | "PlayBgm" => .playBgm
  | "PlaySe" => .playSe
  | "SetBgImg" => .setBgImg
  | "SetCharaImg" => .setCharaImg
  | "ShowCg" => .showCg
  | "TransitionToGraphics" => .transitionToGraphics
  | "TransitionToGraphicsFade" => .transitionToGraphics
  | tag => .unknown tag

/-- the name of a kind -/
def Kind.name : Kind → String
  | .playDialog => "PlayDialog"
  | .showDecision => "ShowDecision"
  | .playBgm => "PlayBgm"
  | .playSe => "PlaySe"
  | .setBgImg => "SetBgImg"
  | .setCharaImg => "SetCharaImg"
  | .showCg => "ShowCg"
  | .transitionToGraphics => "TransitionToGraphics"
  | .unknown tag => tag

/-- the kind of an instruction -/
def Instruction.kind (i : Instruction) : Kind := .ofTag i.tag

/-- the kind of a resolved instruction -/
def Resolved.kind (r : Resolved) : Kind := .ofTag r.tag

/-- the first text, if there is one -/
def Resolved.text (r : Resolved) : Option String := r.texts.head?

/-- the second integer of an instruction: a dialog line's authored number -/
def Resolved.lineNumber (r : Resolved) : Option Int := r.params[1]?

/-- a background or portrait: a folder and a name in it -/
structure Image where
  folder : String
  name : String
  deriving DecidableEq, Repr

/-- the image that two texts name; "0" in either place names none -/
def Image.ofTexts (folder name : String) : Option Image :=
  if folder = "0" ∨ name = "0" then none else some ⟨folder, name⟩

/-- the image that the texts at two positions name; none if there is no text at one of them -/
def Image.at? (texts : List String) (folder name : Nat) : Option (Option Image) := do
  return Image.ofTexts (← texts[folder]?) (← texts[name]?)

/-- what a resolved instruction asks for -/
inductive Command where
  /-- a line of dialog or narration -/
  | dialog (line : Option String)
  /-- the non-empty labels of a decision -/
  | decision (labels : List String)
  /-- start a music track, or stop the music -/
  | playBgm (track : Option String)
  /-- fire a sound effect -/
  | playSe (name : String)
  /-- set or clear the background -/
  | setBackground (image : Option Image)
  /-- set or clear the character portrait -/
  | setPortrait (image : Option Image)
  /-- a full-screen picture; clears the portrait -/
  | showCg (name : String)
  /-- go over to a background, or to a black screen -/
  | transition (image : Option Image)
  /-- a known kind with too few texts -/
  | incomplete (kind : Kind)
  /-- a tag outside the vocabulary -/
  | unknown (tag : String)
  deriving DecidableEq, Repr

/-- the labels of a decision: the texts that are not empty -/
def Resolved.labels (r : Resolved) : List String := r.texts.filter (· ≠ "")

/-- the typed view of a resolved instruction; none if it were built from texts that are not there -/
def Resolved.command? (r : Resolved) : Option Command :=
  match r.kind with
  | .playDialog => some (.dialog r.text)
  | .showDecision => some (.decision r.labels)
  | .playBgm => some (.playBgm r.text)
  | .playSe =>
    match r.text with
    | some name => some (.playSe name)
    | none => some (.incomplete r.kind)
  | .setBgImg =>
    if 2 ≤ r.texts.length then (Image.at? r.texts 0 1).map .setBackground else some (.incomplete r.kind)
  | .setCharaImg =>
    if 2 ≤ r.texts.length then (Image.at? r.texts 0 1).map .setPortrait else some (.incomplete r.kind)
  | .showCg =>
    match r.text with
    | some name => some (.showCg name)
    | none => some (.incomplete r.kind)
  | .transitionToGraphics =>
    if 4 ≤ r.texts.length then (Image.at? r.texts 2 3).map .transition else some (.incomplete r.kind)
  | .unknown tag => some (.unknown tag)

/-- the typed view of a resolved instruction; a fault, which there is none, would leave it incomplete -/
def Resolved.command (r : Resolved) : Command := r.command?.getD (.incomplete r.kind)

/-- with a guard in front of it an image is looked up without fault -/
theorem Image.at?_guarded {texts : List String} {folder name enough : Nat} (hfolder : folder < enough)
    (hname : name < enough) (view : Option Image → Command) (short : Command) :
    (if enough ≤ texts.length then (Image.at? texts folder name).map view else some short).isSome := by
  split
  next henough =>
    have hf : folder < texts.length := Nat.lt_of_lt_of_le hfolder henough
    have hn : name < texts.length := Nat.lt_of_lt_of_le hname henough
    simp [Image.at?, List.getElem?_eq_getElem hf, List.getElem?_eq_getElem hn]
  next => rfl

/-- the typed view is built without fault -/
theorem Resolved.command?_eq (r : Resolved) : r.command? = some r.command := by
  suffices h : r.command?.isSome by
    obtain ⟨c, hc⟩ := Option.isSome_iff_exists.1 h
    simp [command, hc]
  unfold command?
  cases r.kind with
  | playSe => cases r.text <;> rfl
  | setBgImg => exact Image.at?_guarded (by decide) (by decide) _ _
  | setCharaImg => exact Image.at?_guarded (by decide) (by decide) _ _
  | showCg => cases r.text <;> rfl
  | transitionToGraphics => exact Image.at?_guarded (by decide) (by decide) _ _
  | _ => rfl

/-! ## Documents -/

/-- an instruction document: the three members, always in this order -/
def instructionJson (tag : String) (params : List Int) (texts : List String) : Json :=
  .object [("type", .text tag), ("params", .arr (params.map .int)), ("stringParams", .texts texts)]

/-- the document of an instruction -/
def Instruction.toJson (i : Instruction) : Json := instructionJson i.tag i.params i.tokens

/-- the document of a resolved instruction -/
def Resolved.toJson (r : Resolved) : Json := instructionJson r.tag r.params r.texts

/-- member names of an instruction document, in declared order -/
def instructionNames : List String := ["type", "params", "stringParams"]

/-- an instruction; integers and tokens may be left out -/
def Instruction.ofJson : Json.Decoder Instruction := fun v => do
  let f ← Json.Fields.ofRecord instructionNames "an instruction" v
  let tag ← f.required "type" Json.asText
  let params ← f.withDefault "params" (Json.asList Json.asInt32) []
  let tokens ← f.withDefault "stringParams" (Json.asList Json.asText) []
  return ⟨tag, params, tokens⟩

/-- a resolved instruction; all three members are there -/
def Resolved.ofJson : Json.Decoder Resolved := fun v => do
  let f ← Json.Fields.ofRecord instructionNames "an instruction" v
  let tag ← f.required "type" Json.asText
  let params ← f.required "params" (Json.asList Json.asInt32)
  let texts ← f.required "stringParams" (Json.asList Json.asText)
  return ⟨tag, params, texts⟩

end VisualNovel
