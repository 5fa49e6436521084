/-
Saves. A save holds the cursor, the presentation on screen, when and where it was taken and the fingerprint of the
screenplay it was taken against. Written, it is a JSON object of eight members, a line each; read, only the two
positions of the cursor have to be there.
-/
import VisualNovel.Json.Decode
import VisualNovel.Json.Printer

namespace VisualNovel

/-- what is on screen and what is playing -/
structure Presentation where
  background : Option String
  portrait : Option String
  /-- name of the playing music track -/
  bgm : Option String
  deriving DecidableEq, Repr

/-- an empty screen and silence -/
def Presentation.empty : Presentation := ⟨none, none, none⟩

/-- everything that resuming a screenplay needs -/
structure SaveState where
  blockIndex : Nat
  instructionIndex : Nat
  background : Option String
  portrait : Option String
  bgm : Option String
  /-- seconds since 1970 -/
  savedAt : Nat
  /-- id of the block under the cursor -/
  eventId : Option Int
  /-- fingerprint of the screenplay it was taken against -/
  fingerprint : Option String
  deriving DecidableEq, Repr

namespace SaveState

/-- the presentation of a save -/
def presentation (s : SaveState) : Presentation := ⟨s.background, s.portrait, s.bgm⟩

/-- the document of a save: all members, in this order -/
def toJson (s : SaveState) : Json :=
  .object [("currentBlockIndex", .nat s.blockIndex), ("currentInstructionIndex", .nat s.instructionIndex),
    ("currentBg", .optText s.background), ("currentPortrait", .optText s.portrait), ("currentBgm", .optText s.bgm),
    ("savedAt", .nat s.savedAt), ("eventId", match s.eventId with | some id => .int id | none => .null),
    ("screenplayFingerprint", .optText s.fingerprint)]

/-- member names of a save, in declared order -/
def names : List String :=
  ["currentBlockIndex", "currentInstructionIndex", "currentBg", "currentPortrait", "currentBgm", "savedAt", "eventId",
    "screenplayFingerprint"]

/-- a save; all but the cursor may be left out -/
def ofJson : Json.Decoder SaveState := fun v => do
  let f ← Json.Fields.ofRecord names "struct SaveState" v
  let optText := Json.asOption Json.asText
  return {
    blockIndex := ← f.required "currentBlockIndex" Json.asSize
    instructionIndex := ← f.required "currentInstructionIndex" Json.asSize
    background := ← f.withDefault "currentBg" optText none
    portrait := ← f.withDefault "currentPortrait" optText none
    bgm := ← f.withDefault "currentBgm" optText none
    savedAt := ← f.withDefault "savedAt" Json.asSize 0
    eventId := ← f.withDefault "eventId" (Json.asOption Json.asInt64) none
    fingerprint := ← f.withDefault "screenplayFingerprint" optText none }

/-- the text of a save -/
def encode (s : SaveState) : String := s.toJson.pretty

/-- the bytes of a save -/
def toBytes (s : SaveState) : ByteArray := s.encode.toUTF8

/-- a save from its bytes -/
def ofBytes (bytes : ByteArray) : Except Json.DecodeError SaveState := Json.decode ofJson (Json.ofBytes bytes)

end SaveState

end VisualNovel
