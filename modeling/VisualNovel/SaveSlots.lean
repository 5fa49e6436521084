/-
Save slots: numbers from zero up to a bound, each stored under a key of its own, the key stem and the number. A number
beyond the bound is refused and the medium is not touched; that is the only error there is. A medium that fails is
logged and answered as "not saved" or "no save there", and so are bytes that are no save.
-/
import VisualNovel.Engine
import VisualNovel.Store.Basic

namespace VisualNovel

/-- the outcome of a slot operation: the answer, the contents of the medium after it, and log records -/
structure SlotReply (σ α : Type) where
  answer : Except SlotOutOfRange α
  contents : σ
  records : List Record

/-- slots on a medium -/
structure SaveSlots (σ : Type) where
  medium : Medium σ
  config : SlotConfig

/-- a slot and the save in it -/
structure SlotEntry where
  slot : Nat
  state : SaveState
  deriving DecidableEq, Repr

namespace SaveSlots

variable {σ : Type}

/-- the storage key of a slot -/
def key (s : SaveSlots σ) (slot : Nat) : Except SlotOutOfRange String :=
  if slot < s.config.maxSlots then .ok (s.config.keyStem ++ toString slot)
  else .error ⟨slot, s.config.maxSlots⟩

/-- write a save into a slot; whether it was written -/
def save (s : SaveSlots σ) (slot : Nat) (state : SaveState) (contents : σ) : SlotReply σ Bool :=
  match s.key slot with
  | .error e => ⟨.error e, contents, []⟩
  | .ok key =>
    match s.medium.set key state.toBytes contents with
    | (.ok (), contents) => ⟨.ok true, contents, []⟩
    | (.error reason, contents) => ⟨.ok false, contents, [.writeFailed slot reason]⟩

/-- the save in a slot; none when the slot is empty, cannot be read or holds no save -/
def load (s : SaveSlots σ) (slot : Nat) (contents : σ) : SlotReply σ (Option SaveState) :=
  match s.key slot with
  | .error e => ⟨.error e, contents, []⟩
  | .ok key =>
    match s.medium.get key contents with
    | (.error reason, contents) => ⟨.ok none, contents, [.readFailed slot reason]⟩
    | (.ok none, contents) => ⟨.ok none, contents, []⟩
    | (.ok (some bytes), contents) =>
      match SaveState.ofBytes bytes with
      | .ok state => ⟨.ok (some state), contents, []⟩
      | .error reason => ⟨.ok none, contents, [.corrupt slot reason]⟩

/-- clear a slot; whether that was possible -/
def delete (s : SaveSlots σ) (slot : Nat) (contents : σ) : SlotReply σ Bool :=
  match s.key slot with
  | .error e => ⟨.error e, contents, []⟩
  | .ok key =>
    match s.medium.remove key contents with
    | (.ok (), contents) => ⟨.ok true, contents, []⟩
    | (.error reason, contents) => ⟨.ok false, contents, [.deleteFailed slot reason]⟩

/-- the entries of the given slots that hold a save, in order -/
def listFrom (s : SaveSlots σ) : List Nat → σ → List SlotEntry × σ × List Record
  | [], contents => ([], contents, [])
  | slot :: rest, contents =>
    let loaded := s.load slot contents
    let (entries, contents, records) := s.listFrom rest loaded.contents
    match loaded.answer with
    | .ok (some state) => (⟨slot, state⟩ :: entries, contents, loaded.records ++ records)
    | _ => (entries, contents, loaded.records ++ records)

/-- all slots that hold a save, in order -/
def list (s : SaveSlots σ) (contents : σ) : List SlotEntry × σ × List Record :=
  s.listFrom (List.range s.config.maxSlots) contents

end SaveSlots

namespace Production

variable {σ : Type}

/-- the outcome of restoring from a slot: the reply, and the contents of the medium after it -/
structure SlotRestored (σ : Type) where
  reply : Reply (Option (List Directive))
  contents : σ

/-- go on from the save in a slot, if there is one -/
def restoreSlot (p : Production) (slots : SaveSlots σ) (slot : Nat) (e : Engine) (contents : σ) : SlotRestored σ :=
  let loaded := slots.load slot contents
  let logged := loaded.records.map Event.logged
  match loaded.answer with
  | .error reason => ⟨⟨.error (.slot reason), e, logged⟩, loaded.contents⟩
  | .ok none => ⟨⟨.ok none, e, logged⟩, loaded.contents⟩
  | .ok (some state) =>
    let r := p.restore state e
    ⟨⟨r.answer.map some, r.engine, logged ++ r.events⟩, loaded.contents⟩

end Production

end VisualNovel
