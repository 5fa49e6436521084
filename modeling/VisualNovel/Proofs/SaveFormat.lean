/-
Saves and their bytes.

- `SaveState.encode_eq`: the text of a save is its eight members in declared order, a line each, two spaces in.
- `SaveState.ToldBy`: what a record has to hold to be a save. Two members must be there, the others have a default. A
  value is read as a save when it is a record that tells it and the numbers fit (`SaveState.ofJson_ok_iff`).
- A save is read back from its bytes when its numbers fit, whatever its texts are (`SaveState.ofBytes_toBytes`), and no
  other save is read from any bytes.
-/
import VisualNovel.Proofs.Decoders
import VisualNovel.Proofs.JsonText
import VisualNovel.SaveState

namespace VisualNovel

/-! ## Lines -/

namespace Json

/-- a value that holds no other values -/
def isScalar : Json → Bool
  | .arr _ | .obj _ => false
  | _ => true

theorem render_scalar {v : Json} (hv : v.isScalar) (lay : Layout) (depth : Nat) :
    render lay depth v = render lay 0 v := by
  cases v with
  | arr => cases hv
  | obj => cases hv
  | bool b => cases b <;> simp only [render]
  | real tooLarge => cases tooLarge <;> simp only [render]
  | _ => simp only [render]

/-- a member on a line of its own -/
def lineOf (m : String × Json) : List Char :=
  [' ', ' '] ++ writtenText m.1.toList ++ [':', ' '] ++ render .pretty 0 m.2

theorem lineOf_append_renderMembers (m : String × Json) {ms : List (String × Json)}
    (hscalar : ∀ m ∈ ms, m.2.isScalar) :
    lineOf m ++ renderMembers .pretty 0 (ms.map fun m => (some m.1, m.2)) =
      [',', '\n'].intercalate ((m :: ms).map lineOf) ++ ['\n', '\x7d'] := by
  induction ms generalizing m with
  | nil => simp [renderMembers, Layout.pretty]
  | cons next ms ih =>
    obtain ⟨hnext, hscalar⟩ := List.forall_mem_cons.1 hscalar
    have hrest := ih next hscalar
    rw [List.map_cons] at hrest
    simp only [List.map_cons, List.intercalate_cons_cons, List.append_assoc, ← hrest]
    simp [renderMembers, render_scalar hnext, lineOf, Layout.pretty, writtenName, List.replicate]

/-- an object of scalars has a line for each member -/
theorem pretty_object {members : List (String × Json)} (hne : members ≠ [])
    (hscalar : ∀ m ∈ members, m.2.isScalar) : (object members).pretty =
      "\x7b\n" ++ ",\n".intercalate (members.map fun m => String.ofList (lineOf m)) ++ "\n\x7d" := by
  obtain ⟨m, ms, rfl⟩ := List.exists_cons_of_ne_nil hne
  obtain ⟨hm, hms⟩ := List.forall_mem_cons.1 hscalar
  have hlines := lineOf_append_renderMembers m hms
  have hobject : render .pretty 0 (object (m :: ms)) =
      ['\x7b', '\n'] ++ (lineOf m ++ renderMembers .pretty 0 (ms.map fun m => (some m.1, m.2))) := by
    simp [object, render, render_scalar hm, lineOf, Layout.pretty, writtenName, List.replicate]
  have hmembers : ((m :: ms).map fun m => String.ofList (lineOf m)).map String.toList = (m :: ms).map lineOf := by
    simp only [List.map_map, Function.comp_def, String.toList_ofList]
  refine String.toList_inj.1 ?_
  rw [pretty, String.toList_ofList, hobject, hlines, String.toList_append, String.toList_append,
    String.toList_intercalate, hmembers, List.append_assoc]
  rfl

/-- a name with nothing to escape is written as it is -/
theorem ofList_lineOf {name : String} (hname : writtenText name.toList = '"' :: (name.toList ++ ['"'])) (v : Json) :
    String.ofList (lineOf (name, v)) = "  \"" ++ name ++ "\": " ++ v.pretty := by
  refine String.toList_inj.1 ?_
  simp [lineOf, hname, pretty]

theorem pretty_int (n : Int) : (int n).pretty = toString n := by
  refine String.toList_inj.1 ?_
  rw [pretty, String.toList_ofList, render, Text.signedDigits, Int.toString_eq_repr]
  cases n with
  | ofNat n =>
    rw [if_neg (by simp)]
    exact Nat.toList_repr.symm
  | negSucc n =>
    rw [if_pos (Int.negSucc_lt_zero n)]
    simp only [Int.repr, String.toList_append, Nat.toList_repr]
    rfl

end Json

namespace SaveState

/-- null, or the text in quotes, with what a string may not hold escaped -/
def quotedOrNull : Option String → String
  | some t => String.ofList (Json.writtenText t.toList)
  | none => "null"

/-- the members of a save in declared order, with what is written for each -/
def lines (s : SaveState) : List (String × String) :=
  [("currentBlockIndex", toString s.blockIndex), ("currentInstructionIndex", toString s.instructionIndex),
    ("currentBg", quotedOrNull s.background), ("currentPortrait", quotedOrNull s.portrait),
    ("currentBgm", quotedOrNull s.bgm), ("savedAt", toString s.savedAt),
    ("eventId", (s.eventId.map toString).getD "null"), ("screenplayFingerprint", quotedOrNull s.fingerprint)]

/-- the text of a save: each member on its own line, two spaces in -/
def text (s : SaveState) : String :=
  "\x7b\n" ++ ",\n".intercalate (s.lines.map fun line => "  \"" ++ line.1 ++ "\": " ++ line.2) ++ "\n\x7d"

/-- the members of the document of a save -/
def members (s : SaveState) : List (String × Json) :=
  [("currentBlockIndex", .nat s.blockIndex), ("currentInstructionIndex", .nat s.instructionIndex),
    ("currentBg", .optText s.background), ("currentPortrait", .optText s.portrait), ("currentBgm", .optText s.bgm),
    ("savedAt", .nat s.savedAt), ("eventId", .orNull .int s.eventId), ("screenplayFingerprint", .optText s.fingerprint)]

theorem toJson_eq (s : SaveState) : s.toJson = .object s.members := by
  unfold toJson members
  cases s.eventId <;> rfl

theorem members_scalar (s : SaveState) : ∀ m ∈ s.members, m.2.isScalar := by
  have hnat : ∀ n, (Json.nat n).isScalar := fun _ => rfl
  have htext : ∀ t, (Json.optText t).isScalar := by
    intro t
    cases t <;> rfl
  have hid : (Json.orNull .int s.eventId).isScalar := by
    cases s.eventId <;> rfl
  simp only [members, List.forall_mem_cons, hnat, htext, hid, true_and]
  exact List.forall_mem_nil _

theorem members_written (s : SaveState) : s.members.map (fun m => (m.1, m.2.pretty)) = s.lines := by
  have hnat : ∀ n, (Json.nat n).pretty = toString n := fun n => Json.pretty_int n
  have htext : ∀ t, (Json.optText t).pretty = quotedOrNull t := by
    intro t
    cases t <;> rfl
  have hid : (Json.orNull .int s.eventId).pretty = (s.eventId.map toString).getD "null" := by
    cases s.eventId with
    | none => rfl
    | some id => exact Json.pretty_int id
  simp only [members, lines, List.map_cons, List.map_nil, hnat, htext, hid]

/-- the text of a save has a line for each member -/
theorem encode_eq (s : SaveState) : s.encode = s.text := by
  have hnames : ∀ name ∈ names, Json.writtenText name.toList = '"' :: (name.toList ++ ['"']) := by decide
  have hlines : (s.members.map fun m => String.ofList (Json.lineOf m)) =
      s.lines.map fun line => "  \"" ++ line.1 ++ "\": " ++ line.2 := by
    rw [← s.members_written, List.map_map]
    refine List.map_congr_left fun m hm => ?_
    have hname : m.1 ∈ names := List.mem_map_of_mem (f := Prod.fst) hm
    exact Json.ofList_lineOf (hnames m.1 hname) m.2
  have hne : s.members ≠ [] := List.cons_ne_nil _ _
  rw [encode, toJson_eq, Json.pretty_object hne s.members_scalar, hlines, text]

/-! ## Members -/

/-- the positions and the time are 64-bit, and so is the id with its sign -/
structure Fits (s : SaveState) : Prop where
  blockIndex : s.blockIndex ≤ Text.sizeMax
  instructionIndex : s.instructionIndex ≤ Text.sizeMax
  savedAt : s.savedAt ≤ Text.sizeMax
  eventId : ∀ id ∈ s.eventId, -Int.pow 2 63 ≤ id ∧ id ≤ Int.pow 2 63 - 1

/-- a record tells a save: the cursor is there, and each other member is there or at its default -/
structure ToldBy (s : SaveState) (member : String → Option Json) : Prop where
  blockIndex : member "currentBlockIndex" = some (.nat s.blockIndex)
  instructionIndex : member "currentInstructionIndex" = some (.nat s.instructionIndex)
  background : (member "currentBg").getD .null = .optText s.background
  portrait : (member "currentPortrait").getD .null = .optText s.portrait
  bgm : (member "currentBgm").getD .null = .optText s.bgm
  savedAt : (member "savedAt").getD (.nat 0) = .nat s.savedAt
  eventId : (member "eventId").getD .null = .orNull .int s.eventId
  fingerprint : (member "screenplayFingerprint").getD .null = .optText s.fingerprint

theorem exact_optText : Json.Exact Json.optText (fun _ => True) (Json.asOption Json.asText) := by
  intro v t
  have hexact := Json.exact_text.orNull (by rintro _ ⟨⟩) v t
  rw [hexact, Json.orNull_text]
  simp

theorem exact_optInt64 : Json.Exact (Json.orNull .int)
    (fun o => ∀ n ∈ o, -Int.pow 2 63 ≤ n ∧ n ≤ Int.pow 2 63 - 1) (Json.asOption Json.asInt64) :=
  Json.exact_int64.orNull (by rintro _ ⟨⟩)

/-- a value is a save when it is a record that tells it -/
theorem ofJson_ok_iff {v : Json} {s : SaveState} : ofJson v = .ok s ↔
    ∃ f, Json.Fields.ofRecord names "struct SaveState" v = .ok f ∧ s.ToldBy f.get? ∧ s.Fits := by
  have hzero : Json.asSize (.nat 0) = .ok 0 := rfl
  have hnull {α : Type} (decoder : Json.Decoder α) : Json.asOption decoder .null = .ok none := rfl
  simp only [ofJson, Json.bind_ok_iff, Json.Fields.required_exact Json.exact_size,
    Json.Fields.withDefault_exact exact_optText (hnull _), Json.Fields.withDefault_exact Json.exact_size hzero,
    Json.Fields.withDefault_exact exact_optInt64 (hnull _), pure, Except.pure, Except.ok.injEq]
  constructor
  · rintro ⟨f, hf, block, ⟨hblock, hb⟩, instruction, ⟨hinstruction, hi⟩, background, ⟨hbackground, -⟩, portrait,
      ⟨hportrait, -⟩, bgm, ⟨hbgm, -⟩, savedAt, ⟨hsavedAt, hs⟩, id, ⟨hid, hrange⟩, fingerprint, ⟨hfingerprint, -⟩, rfl⟩
    exact ⟨f, hf, ⟨hblock, hinstruction, hbackground, hportrait, hbgm, hsavedAt, hid, hfingerprint⟩,
      ⟨hb, hi, hs, hrange⟩⟩
  · rintro ⟨f, hf, ht, hfits⟩
    exact ⟨f, hf, _, ⟨ht.blockIndex, hfits.blockIndex⟩, _, ⟨ht.instructionIndex, hfits.instructionIndex⟩,
      _, ⟨ht.background, trivial⟩, _, ⟨ht.portrait, trivial⟩, _, ⟨ht.bgm, trivial⟩, _, ⟨ht.savedAt, hfits.savedAt⟩,
      _, ⟨ht.eventId, hfits.eventId⟩, _, ⟨ht.fingerprint, trivial⟩, rfl⟩

/-- an object is a save when no known member is repeated and the members tell it, in any order and among any others -/
theorem ofJson_object_iff {ms : List (String × Json)} {s : SaveState} : ofJson (.object ms) = .ok s ↔
    Json.KnownOnce names ms ∧ s.ToldBy (fun name => ms.lookup name) ∧ s.Fits := by
  rw [ofJson_ok_iff]
  exact Json.tells_object_iff fun member => s.ToldBy member ∧ s.Fits

theorem ofJson_toJson {s : SaveState} (hs : s.Fits) : ofJson s.toJson = .ok s := by
  have hnodup : (s.members.map Prod.fst).Nodup := (by decide : names.Nodup)
  rw [toJson_eq, ofJson_ok_iff]
  exact ⟨_, Json.ofRecord_object hnodup _ _, ⟨rfl, rfl, rfl, rfl, rfl, rfl, rfl, rfl⟩, hs⟩

theorem ofBytes_toBytes {s : SaveState} (hs : s.Fits) : ofBytes s.toBytes = .ok s :=
  Json.decode_pretty.2 (ofJson_toJson hs)

theorem fits_of_ofBytes {bytes : ByteArray} {s : SaveState} (h : ofBytes bytes = .ok s) : s.Fits := by
  obtain ⟨v, -, hv⟩ := Json.decode_ok_iff.1 h
  obtain ⟨f, -, -, hs⟩ := ofJson_ok_iff.1 hv
  exact hs

end SaveState

/-- **Saves survive their bytes.** The bytes of a save are those of its text, and the save is read back from them,
whatever its texts hold and up to the limits of its numbers. What is read goes by the members alone: two must be there,
the others have defaults, members of other names are passed over, and none that is known may be repeated. -/
theorem saves_survive_bytes (s : SaveState) :
    (SaveState.ofBytes s.toBytes = .ok s ↔ s.Fits) ∧ s.toBytes = s.text.toUTF8 ∧
    ∀ bytes members, Json.read (Json.ofBytes bytes) = .ok (.object members) →
      (SaveState.ofBytes bytes = .ok s ↔
        Json.KnownOnce SaveState.names members ∧ s.ToldBy (fun name => members.lookup name) ∧ s.Fits) := by
  refine ⟨⟨SaveState.fits_of_ofBytes, SaveState.ofBytes_toBytes⟩, congrArg String.toUTF8 s.encode_eq, ?_⟩
  intro bytes members hread
  rw [← SaveState.ofJson_object_iff, SaveState.ofBytes, Json.decode_ok_iff, hread]
  simp

/-- a save with numbers at their limits, a text of characters that are escaped or lie outside ASCII, and an empty one -/
def limitSave : SaveState :=
  ⟨18446744073709551615, 0, some "\"\\/\x08\x0c\n\r\t\x01\x1f\x7f守😀", none, some "", 18446744073709551615,
    some (-9223372036854775808), none⟩

/-- its text holds each of these characters in its shortest form -/
theorem limitSave_survives : SaveState.ofBytes limitSave.toBytes = .ok limitSave ∧
    limitSave.toBytes = ("\x7b\n  \"currentBlockIndex\": 18446744073709551615,\n  \"currentInstructionIndex\": 0,\n" ++
      "  \"currentBg\": \"\\\"\\\\/\\b\\f\\n\\r\\t\\u0001\\u001f\x7f守😀\",\n  \"currentPortrait\": null,\n" ++
      "  \"currentBgm\": \"\",\n  \"savedAt\": 18446744073709551615,\n  \"eventId\": -9223372036854775808,\n" ++
      "  \"screenplayFingerprint\": null\n\x7d").toUTF8 := by
  obtain ⟨hback, hbytes, -⟩ := saves_survive_bytes limitSave
  have hfits : limitSave.Fits := ⟨by decide, by decide, by decide, by rintro id ⟨⟩; decide⟩
  refine ⟨hback.2 hfits, hbytes.trans (congrArg String.toUTF8 ?_)⟩
  decide +kernel

end VisualNovel
