/-
Scripts, their documents and their fingerprints.

- `Instruction.Told`, `Block.Told`, `Script.Told`: which values tell an instruction, a block and a script. A record is
  asked for its members by name, and lists that are left out are empty. A value tells at most one script
  (`Script.told_unique`), and decoding takes the values that tell one in range (`Script.ofJson_ok_iff`).
- A script is told by its document (`Script.told_toJson`), so it is decoded from its text in any layout
  (`Script.decode_render`), and different scripts have different canonical texts (`Script.canonicalText_injective`).
- So the fingerprint is taken from a text that stands for the blocks and the pool and for nothing else, however the
  source was written (`fingerprint_of_canonical_text`).
-/
import VisualNovel.Proofs.Decoders
import VisualNovel.Proofs.JsonText
import VisualNovel.Screenplay.Basic

namespace VisualNovel

/-! ## Instructions -/

namespace Instruction

/-- the integers are 32-bit -/
def Fits (i : Instruction) : Prop := ∀ n ∈ i.params, -Int.pow 2 31 ≤ n ∧ n ≤ Int.pow 2 31 - 1

/-- the members of an instruction: the tag is there, integers and tokens are none where they are left out -/
structure ToldBy (i : Instruction) (member : String → Option Json) : Prop where
  tag : member "type" = some (.text i.tag)
  params : (member "params").getD (.arr []) = .arr (i.params.map .int)
  tokens : (member "stringParams").getD (.arr []) = .texts i.tokens

/-- the value is a record that tells the instruction -/
def Told (v : Json) (i : Instruction) : Prop :=
  ∃ f, Json.Fields.ofRecord instructionNames "an instruction" v = .ok f ∧ i.ToldBy f.get?

theorem ofJson_ok_iff {v : Json} {i : Instruction} : ofJson v = .ok i ↔ Told v i ∧ i.Fits := by
  have hempty {α : Type} (decoder : Json.Decoder α) : Json.asList decoder (.arr []) = .ok [] := rfl
  simp only [ofJson, Json.bind_ok_iff, Json.Fields.required_exact Json.exact_text,
    Json.Fields.withDefault_exact Json.exact_int32.list (hempty _),
    Json.Fields.withDefault_exact Json.exact_texts (hempty _), pure, Except.pure, Except.ok.injEq]
  constructor
  · rintro ⟨f, hf, tag, ⟨htag, -⟩, params, ⟨hparams, hfits⟩, tokens, ⟨htokens, -⟩, rfl⟩
    exact ⟨⟨f, hf, htag, hparams, htokens⟩, hfits⟩
  · rintro ⟨⟨f, hf, ht⟩, hfits⟩
    exact ⟨f, hf, _, ⟨ht.tag, trivial⟩, _, ⟨ht.params, hfits⟩, _, ⟨ht.tokens, trivial⟩, rfl⟩

theorem told_toJson (i : Instruction) : Told i.toJson i := by
  have hnames : instructionNames.Nodup := by decide
  exact ⟨_, Json.ofRecord_object (by exact hnames) _ _, rfl, rfl, rfl⟩

theorem told_unique : Relator.RightUnique Told := by
  rintro v ⟨tag, params, tokens⟩ ⟨tag', params', tokens'⟩ ⟨f, hf, hi⟩ ⟨f', hf', hj⟩
  cases hf.symm.trans hf'
  cases Json.text_injective (Option.some.inj (hi.tag.symm.trans hj.tag))
  cases Json.list_injective Json.int_injective (hi.params.symm.trans hj.params)
  cases Json.list_injective Json.text_injective (hi.tokens.symm.trans hj.tokens)
  rfl

end Instruction

/-! ## Blocks -/

namespace Block

/-- the id and the edges are 64-bit -/
structure Fits (b : Block) : Prop where
  id : -Int.pow 2 63 ≤ b.id ∧ b.id ≤ Int.pow 2 63 - 1
  instructions : ∀ i ∈ b.instructions, i.Fits
  edges : ∀ target ∈ b.edges, -Int.pow 2 63 ≤ target ∧ target ≤ Int.pow 2 63 - 1

/-- the members of a block: the id is there, instructions and edges are none where they are left out -/
structure ToldBy (b : Block) (member : String → Option Json) : Prop where
  id : member "evId" = some (.int b.id)
  instructions : Json.IsListOf Instruction.Told ((member "instructions").getD (.arr [])) b.instructions
  edges : (member "returnValues").getD (.arr []) = .arr (b.edges.map .int)

/-- the value is a record that tells the block -/
def Told (v : Json) (b : Block) : Prop :=
  ∃ f, Json.Fields.ofRecord ["evId", "instructions", "returnValues"] "a block" v = .ok f ∧ b.ToldBy f.get?

theorem ofJson_ok_iff {v : Json} {b : Block} : ofJson v = .ok b ↔ Told v b ∧ b.Fits := by
  have hempty : Json.asList Json.asInt64 (.arr []) = .ok [] := rfl
  simp only [ofJson, Json.bind_ok_iff, Json.Fields.required_exact Json.exact_int64,
    Json.Fields.withDefault_list fun v i => Instruction.ofJson_ok_iff (v := v) (i := i),
    Json.Fields.withDefault_exact Json.exact_int64.list hempty, pure, Except.pure, Except.ok.injEq]
  constructor
  · rintro ⟨f, hf, id, ⟨hid, hrange⟩, instructions, ⟨hinstructions, hfits⟩, edges, ⟨hedges, hranges⟩, rfl⟩
    exact ⟨⟨f, hf, hid, hinstructions, hedges⟩, hrange, hfits, hranges⟩
  · rintro ⟨⟨f, hf, ht⟩, hfits⟩
    exact ⟨f, hf, _, ⟨ht.id, hfits.id⟩, _, ⟨ht.instructions, hfits.instructions⟩, _, ⟨ht.edges, hfits.edges⟩, rfl⟩

theorem told_toJson (b : Block) : Told b.toJson b := by
  have hnames : ["evId", "instructions", "returnValues"].Nodup := by decide
  exact ⟨_, Json.ofRecord_object (by exact hnames) _ _, rfl, Json.isListOf_map fun i _ => i.told_toJson, rfl⟩

theorem told_unique : Relator.RightUnique Told := by
  rintro v ⟨id, instructions, edges⟩ ⟨id', instructions', edges'⟩ ⟨f, hf, hb⟩ ⟨f', hf', hc⟩
  cases hf.symm.trans hf'
  cases Json.int_injective (Option.some.inj (hb.id.symm.trans hc.id))
  cases Json.isListOf_unique Instruction.told_unique hb.instructions hc.instructions
  cases Json.list_injective Json.int_injective (hb.edges.symm.trans hc.edges)
  rfl

end Block

/-! ## Scripts -/

namespace Script

/-- the numbers of all blocks fit -/
def Fits (s : Script) : Prop := ∀ b ∈ s.blocks, b.Fits

/-- the members of a script: blocks and pool are empty where they are left out -/
structure ToldBy (s : Script) (member : String → Option Json) : Prop where
  blocks : Json.IsListOf Block.Told ((member "events").getD (.arr [])) s.blocks
  pool : (member "textPool").getD (.arr []) = .texts s.pool

/-- the value is a record that tells the script -/
def Told (v : Json) (s : Script) : Prop :=
  ∃ f, Json.Fields.ofRecord ["events", "textPool"] "a screenplay" v = .ok f ∧ s.ToldBy f.get?

theorem ofJson_ok_iff {v : Json} {s : Script} : ofJson v = .ok s ↔ Told v s ∧ s.Fits := by
  have hempty : Json.asList Json.asText (.arr []) = .ok [] := rfl
  simp only [ofJson, Json.bind_ok_iff, Json.Fields.withDefault_list fun v b => Block.ofJson_ok_iff (v := v) (b := b),
    Json.Fields.withDefault_exact Json.exact_texts hempty, pure, Except.pure, Except.ok.injEq]
  constructor
  · rintro ⟨f, hf, blocks, ⟨hblocks, hfits⟩, pool, ⟨hpool, -⟩, rfl⟩
    exact ⟨⟨f, hf, hblocks, hpool⟩, hfits⟩
  · rintro ⟨⟨f, hf, ht⟩, hfits⟩
    exact ⟨f, hf, _, ⟨ht.blocks, hfits⟩, _, ⟨ht.pool, trivial⟩, rfl⟩

/-- a script is told by its document -/
theorem told_toJson (s : Script) : Told s.toJson s := by
  have hnames : ["events", "textPool"].Nodup := by decide
  exact ⟨_, Json.ofRecord_object (by exact hnames) _ _, Json.isListOf_map fun b _ => b.told_toJson, rfl⟩

/-- a value tells at most one script -/
theorem told_unique : Relator.RightUnique Told := by
  rintro v ⟨blocks, pool⟩ ⟨blocks', pool'⟩ ⟨f, hf, hs⟩ ⟨f', hf', ht⟩
  cases hf.symm.trans hf'
  cases Json.isListOf_unique Block.told_unique hs.blocks ht.blocks
  cases Json.list_injective Json.text_injective (hs.pool.symm.trans ht.pool)
  rfl

theorem decode_ok_iff {source : List Json.Symbol} {s : Script} :
    Json.decode ofJson source = .ok s ↔ ∃ v, Json.read source = .ok v ∧ Told v s ∧ s.Fits := by
  simp only [Json.decode_ok_iff, ofJson_ok_iff]

/-- a script is decoded from its text in any layout, to the limits of its numbers -/
theorem decode_render {lay : Json.Layout} (hlay : lay.Airy) (s : Script) :
    Json.decode ofJson ((Json.render lay 0 s.toJson).map some) = .ok s ↔ s.Fits := by
  rw [Json.decode_render hlay, ofJson_ok_iff]
  exact and_iff_right s.told_toJson

/-- no two scripts have one canonical text -/
theorem canonicalText_injective : Function.Injective canonicalText := by
  intro s t h
  have hread := congrArg Json.read (congrArg Json.ofText h)
  simp only [canonicalText, Json.ofText_compact, Json.read_render Json.Layout.airy_compact, Except.ok.injEq] at hread
  exact told_unique s.told_toJson (hread ▸ t.told_toJson)

end Script

/-! ## Fingerprints -/

namespace Digest.Md5

/-- the digits of a digest -/
def hexDigits : List Char := "0123456789abcdef".toList

theorem hexDigit_mem (n : Nat) : hexDigit n ∈ hexDigits := by
  unfold hexDigit
  rw [List.getD_eq_getElem?_getD]
  cases h : "0123456789abcdef".toList[n]? with
  | none => decide
  | some c => exact List.mem_of_getElem? h

theorem hexWord_length (w : UInt32) : (hexWord w).length = 8 := rfl

theorem hexWord_mem {w : UInt32} {c : Char} (hc : c ∈ hexWord w) : c ∈ hexDigits := by
  obtain ⟨i, -, hc⟩ := List.mem_flatMap.1 hc
  simp only [hexByte, List.mem_cons, List.not_mem_nil, or_false] at hc
  rcases hc with rfl | rfl <;> exact hexDigit_mem _

/-- a digest is written in 32 lower-case hex digits -/
theorem hex_digits (bytes : ByteArray) :
    (hex bytes).toList.length = 32 ∧ ∀ c ∈ (hex bytes).toList, c ∈ hexDigits := by
  unfold hex
  simp only [String.toList_ofList, List.length_append, hexWord_length, List.mem_append, true_and]
  rintro c (((hc | hc) | hc) | hc) <;> exact hexWord_mem hc

end Digest.Md5

namespace Screenplay

/-- a screenplay is loaded from a source that is decoded to its script, when the script has no fault -/
theorem ofSource_ok_iff {source : List Json.Symbol} {p : Screenplay} :
    ofSource source = .ok p ↔ Json.decode Script.ofJson source = .ok p.script ∧ p.script.fault? = none := by
  unfold ofSource
  cases Json.decode Script.ofJson source with
  | error reason => simp
  | ok s =>
    simp only [ofScript_ok_iff, Except.ok.injEq]
    constructor
    · rintro ⟨rfl, hfault⟩
      exact ⟨rfl, hfault⟩
    · rintro ⟨rfl, hfault⟩
      exact ⟨rfl, hfault⟩

end Screenplay

/-- **The fingerprint is taken from a text that stands for the script.** The canonical text decodes to the script, as
its text in any other layout does, and no two scripts have the same. The fingerprint is the MD5 of that text, in
lower-case hex, for the script that the source decodes to. A source is only asked what its value tells, and an object is
asked for members by name, with a default for each list. So sources of one script have one fingerprint, whatever gaps,
escapes, order of members, unknown members and defaults they are written with. -/
theorem fingerprint_of_canonical_text :
    (∀ s : Script, Json.decode Script.ofJson (Json.ofText s.canonicalText) = .ok s ↔ s.Fits) ∧
    (∀ (s : Script) (lay : Json.Layout), lay.Airy →
      (Json.decode Script.ofJson ((Json.render lay 0 s.toJson).map some) = .ok s ↔ s.Fits)) ∧
    (∀ p q : Screenplay,
      p.script.canonicalText = q.script.canonicalText ↔ p.blocks = q.blocks ∧ p.pool = q.pool) ∧
    (∀ source p, Screenplay.ofSource source = .ok p →
      Json.decode Script.ofJson source = .ok p.script ∧ p.script.Fits ∧
      p.fingerprint = Digest.Md5.hex p.script.canonicalText.toUTF8 ∧ p.fingerprint.toList.length = 32 ∧
      ∀ c ∈ p.fingerprint.toList, c ∈ Digest.Md5.hexDigits) ∧
    (∀ source s, Json.decode Script.ofJson source = .ok s ↔
      ∃ v, Json.read source = .ok v ∧ Script.Told v s ∧ s.Fits) ∧
    (∀ members : List (String × Json),
      (∀ s, Script.Told (.object members) s ↔
        Json.KnownOnce ["events", "textPool"] members ∧ s.ToldBy fun name => members.lookup name) ∧
      (∀ b, Block.Told (.object members) b ↔
        Json.KnownOnce ["evId", "instructions", "returnValues"] members ∧ b.ToldBy fun name => members.lookup name) ∧
      ∀ i, Instruction.Told (.object members) i ↔
        Json.KnownOnce instructionNames members ∧ i.ToldBy fun name => members.lookup name) ∧
    ∀ a b p q, Screenplay.ofSource a = .ok p → Screenplay.ofSource b = .ok q →
      (p.script.canonicalText = q.script.canonicalText ↔
        Json.decode Script.ofJson a = Json.decode Script.ofJson b) ∧
      (Json.decode Script.ofJson a = Json.decode Script.ofJson b → p.fingerprint = q.fingerprint) := by
  refine ⟨?canonical, fun s lay hlay => s.decode_render hlay, ?injective, ?digest,
    fun source s => Script.decode_ok_iff, ?members, ?sources⟩
  case canonical =>
    intro s
    rw [Script.canonicalText, Json.ofText_compact]
    exact s.decode_render Json.Layout.airy_compact
  case injective =>
    intro p q
    obtain ⟨⟨blocks, pool⟩, -, -, -⟩ := p
    obtain ⟨⟨blocks', pool'⟩, -, -, -⟩ := q
    rw [Script.canonicalText_injective.eq_iff, Script.mk.injEq]
    rfl
  case digest =>
    intro source p hp
    obtain ⟨hdecode, -⟩ := Screenplay.ofSource_ok_iff.1 hp
    obtain ⟨-, -, -, hfits⟩ := Script.decode_ok_iff.1 hdecode
    obtain ⟨hlength, hdigits⟩ := Digest.Md5.hex_digits p.script.canonicalText.toUTF8
    have hfingerprint : p.fingerprint = Digest.Md5.hex p.script.canonicalText.toUTF8 := p.fingerprint_eq
    rw [← hfingerprint] at hlength hdigits
    exact ⟨hdecode, hfits, hfingerprint, hlength, hdigits⟩
  case members =>
    intro members
    exact ⟨fun s => Json.tells_object_iff s.ToldBy, fun b => Json.tells_object_iff b.ToldBy,
      fun i => Json.tells_object_iff i.ToldBy⟩
  case sources =>
    intro a b p q hp hq
    obtain ⟨ha, -⟩ := Screenplay.ofSource_ok_iff.1 hp
    obtain ⟨hb, -⟩ := Screenplay.ofSource_ok_iff.1 hq
    rw [ha, hb, Script.canonicalText_injective.eq_iff, Except.ok.injEq, p.fingerprint_eq, q.fingerprint_eq]
    exact ⟨Iff.rfl, congrArg Script.fingerprint⟩

/-- a line of dialog with a text from the pool, which has characters to escape and some outside ASCII -/
def spokenLine : Script := ⟨[⟨7, [⟨"PlayDialog", [], ["$0", "/"]⟩], []⟩], ["\"é\\\t😀"]⟩

/-- its source in other words: gaps, escapes, another order, members that mean nothing, and no empty lists -/
def spokenLineRestated : String :=
  "\x7b \"note\" : 1.5,\n  \"textPool\": [" ++ "\"\\u0022\\u00e9\\\\\\u0009\\ud83d\\uDE00\"],\n" ++
    "  \"events\": [\x7b\"instructions\": [\x7b" ++ "\"stringParams\": [\"$0\", \"\\/\"]," ++
    " \"mood\": \x7b\x7d, \"type\": \"Play\\u0044ialog\"\x7d]," ++ " \"evId\": 7 \x7d]\x7d\n"

/-- both sources load, and their screenplays have one fingerprint -/
theorem spokenLine_fingerprint : ∃ p q, Screenplay.ofSource (Json.ofText spokenLine.canonicalText) = .ok p ∧
    Screenplay.ofSource (Json.ofText spokenLineRestated) = .ok q ∧ spokenLine.canonicalText ≠ spokenLineRestated ∧
    p.fingerprint = q.fingerprint := by
  obtain ⟨hcanonical, -, -, -, -, -, hsources⟩ := fingerprint_of_canonical_text
  have hfits : spokenLine.Fits := by
    intro b hb
    cases List.mem_singleton.1 hb
    refine ⟨by decide, fun i hi => ?_, List.forall_mem_nil _⟩
    cases List.mem_singleton.1 hi
    exact List.forall_mem_nil _
  have hfault : spokenLine.fault? = none := by decide
  have hplain := (hcanonical spokenLine).2 hfits
  have hrestated : Json.decode Script.ofJson (Json.ofText spokenLineRestated) = .ok spokenLine := by
    unfold Json.ofText spokenLineRestated
    simp only [String.toList_append]
    decide +kernel
  let p : Screenplay := ⟨spokenLine, spokenLine.fingerprint, Script.wellFormed_of_fault? hfault, rfl⟩
  have hp : Screenplay.ofSource (Json.ofText spokenLine.canonicalText) = .ok p :=
    Screenplay.ofSource_ok_iff.2 ⟨hplain, hfault⟩
  have hq : Screenplay.ofSource (Json.ofText spokenLineRestated) = .ok p :=
    Screenplay.ofSource_ok_iff.2 ⟨hrestated, hfault⟩
  refine ⟨p, p, hp, hq, by decide +kernel, ?_⟩
  exact (hsources _ _ _ _ hp hq).2 (hplain.trans hrestated.symm)

end VisualNovel
