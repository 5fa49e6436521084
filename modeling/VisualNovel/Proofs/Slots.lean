/-
Save slots are a bounded map.

A slot is stored under a key made of the stem and the decimal number of the slot, and what is stored is the text of the
save. So slots are a map because keys differ (`keyOf_injective`: the stem may end in digits), because a written save is
read back (`SaveState.ofBytes_toBytes`) and because the medium is one.

- `Medium.IsMap`: the medium does what a map does on the keys in question. It may count, cache or log as it likes:
  `view` says which map its contents stand for. The memory is a map on all keys (`Medium.memory_isMap`).
- `Shelf`: the bounded map itself, with the same calls and the same refusals. A slot holds what the last call that wrote
  to it left there (`Shelf.answerAll_apply`).
- `Stores`: the contents stand for a shelf. One call answers alike on both sides, keeps this and touches no other key
  (`perform_agrees`); so does a run of calls (`answerAll_agrees`).
- `Absorbs`: what a call comes to on a medium that may fail in any way and hold any bytes. Nothing of that is an error;
  the only error is a number beyond the bound.
-/
import Mathlib.Data.List.FinRange
import Mathlib.Data.List.Nodup
import Mathlib.Logic.Function.Basic
import VisualNovel.Proofs.SaveFormat
import VisualNovel.SaveSlots
import VisualNovel.Store.Memory

namespace VisualNovel

/-! ## Media that are maps -/

/-- on these keys the medium does what a map does; `view` is the map that its contents stand for -/
structure Medium.IsMap {σ : Type} (m : Medium σ) (keys : String → Prop)
    (view : σ → String → Option ByteArray) : Prop where
  get_answer : ∀ key contents, keys key → (m.get key contents).1 = .ok (view contents key)
  get_view : ∀ key contents, keys key → view (m.get key contents).2 = view contents
  set_answer : ∀ key bytes contents, keys key → (m.set key bytes contents).1 = .ok ()
  set_view : ∀ key bytes contents, keys key →
    view (m.set key bytes contents).2 = Function.update (view contents) key (some bytes)
  remove_answer : ∀ key contents, keys key → (m.remove key contents).1 = .ok ()
  remove_view : ∀ key contents, keys key →
    view (m.remove key contents).2 = Function.update (view contents) key none

theorem Medium.memory_isMap (keys : String → Prop) : Medium.memory.IsMap keys fun m key => m.lookup key where
  get_answer _ _ _ := rfl
  get_view _ _ _ := rfl
  set_answer _ _ _ _ := rfl
  set_view key bytes m _ := by
    funext k
    rw [Function.update_apply]
    exact Assoc.lookup_assign key k bytes m
  remove_answer _ _ _ := rfl
  remove_view key m _ := by
    funext k
    rw [Function.update_apply]
    exact Assoc.lookup_discard key k m

/-! ## Calls -/

/-- what save slots can be asked -/
inductive SlotCall where
  | save (slot : Nat) (state : SaveState)
  | load (slot : Nat)
  | delete (slot : Nat)
  | list

/-- what save slots answer -/
inductive SlotAnswer where
  | refused (reason : SlotOutOfRange)
  | done (possible : Bool)
  | found (state : Option SaveState)
  | entries (entries : List SlotEntry)
  deriving DecidableEq

/-- the slot that a call names -/
def SlotCall.slot? : SlotCall → Option Nat
  | .save slot _ | .load slot | .delete slot => some slot
  | .list => none

/-- the save that a call brings is one that can be written -/
def SlotCall.Fits : SlotCall → Prop
  | .save _ state => state.Fits
  | _ => True

/-- what a call puts into a slot or leaves there, if it writes to it -/
def SlotCall.leaves (slot : Nat) : SlotCall → Option (Option SaveState)
  | .save n state => if n = slot then some (some state) else none
  | .delete n => if n = slot then some none else none
  | .load _ | .list => none

/-- the answers to calls made one after the other, and the state after them -/
def SlotCall.answerAll {τ : Type} (perform : τ → SlotCall → SlotAnswer × τ) (t : τ) :
    List SlotCall → List SlotAnswer × τ
  | [] => ([], t)
  | call :: calls =>
    let rest := answerAll perform (perform t call).2 calls
    ((perform t call).1 :: rest.1, rest.2)

namespace SaveSlots

variable {σ : Type} (s : SaveSlots σ)

/-- a reply as an answer, and the contents after it -/
def outcome {α : Type} (answer : α → SlotAnswer) (r : SlotReply σ α) : SlotAnswer × σ :=
  match r.answer with
  | .ok a => (answer a, r.contents)
  | .error reason => (.refused reason, r.contents)

/-- one call: the answer and the contents after it -/
def perform (contents : σ) : SlotCall → SlotAnswer × σ
  | .save slot state => outcome .done (s.save slot state contents)
  | .load slot => outcome .found (s.load slot contents)
  | .delete slot => outcome .done (s.delete slot contents)
  | .list => (.entries (s.list contents).1, (s.list contents).2.1)

end SaveSlots

/-! ## The bounded map -/

/-- a map with a fixed number of slots: what is in each -/
abbrev Shelf (slots : Nat) := Fin slots → Option SaveState

namespace Shelf

variable {slots : Nat}

/-- nothing in any slot -/
def empty : Shelf slots := fun _ => none

/-- act on the slot of this number, if there is one -/
def within (shelf : Shelf slots) (slot : Nat) (act : Fin slots → SlotAnswer × Shelf slots) :
    SlotAnswer × Shelf slots :=
  if h : slot < slots then act ⟨slot, h⟩ else (.refused ⟨slot, slots⟩, shelf)

/-- one call: the answer and the map after it -/
def perform (shelf : Shelf slots) : SlotCall → SlotAnswer × Shelf slots
  | .save slot state => shelf.within slot fun i => (.done true, Function.update shelf i (some state))
  | .load slot => shelf.within slot fun i => (.found (shelf i), shelf)
  | .delete slot => shelf.within slot fun i => (.done true, Function.update shelf i none)
  | .list => (.entries ((List.finRange slots).filterMap fun i => (shelf i).map (SlotEntry.mk i)), shelf)

theorem perform_apply (shelf : Shelf slots) (call : SlotCall) (i : Fin slots) :
    (shelf.perform call).2 i = (call.leaves i).getD (shelf i) := by
  -- writing to a slot is seen in that slot and in no other
  have hwrite : ∀ (n : Nat) (entry : Option SaveState), (shelf.within n fun j =>
      (.done true, Function.update shelf j entry)).2 i = if n = i then entry else shelf i := by
    intro n entry
    by_cases hn : n < slots
    · simp only [within, hn, dif_pos, Function.update_apply, Fin.ext_iff, eq_comm]
    · have hne : n ≠ i := fun h => hn (h ▸ i.isLt)
      simp only [within, hn, dif_neg, not_false_eq_true, hne, if_false]
  cases call with
  | save n state =>
    rw [perform, hwrite, SlotCall.leaves]
    split <;> rfl
  | delete n =>
    rw [perform, hwrite, SlotCall.leaves]
    split <;> rfl
  | load n =>
    rw [perform, within, SlotCall.leaves]
    split <;> rfl
  | list => rfl

/-- a slot holds what the last call that wrote to it left there -/
theorem answerAll_apply (shelf : Shelf slots) (calls : List SlotCall) (i : Fin slots) :
    (SlotCall.answerAll perform shelf calls).2 i =
      (calls.reverse.findSome? (SlotCall.leaves i)).getD (shelf i) := by
  induction calls generalizing shelf with
  | nil => rfl
  | cons call calls ih =>
    rw [SlotCall.answerAll, ih, perform_apply, List.reverse_cons, List.findSome?_append]
    cases calls.reverse.findSome? (SlotCall.leaves i) with
    | some entry => rfl
    | none => cases h : call.leaves i <;> simp [h]

end Shelf

/-! ## Keys -/

namespace SaveSlots

variable {σ : Type} (s : SaveSlots σ)

/-- the key of the slot of this number -/
def keyOf (slot : Nat) : String := s.config.keyStem ++ toString slot

/-- the key belongs to one of the slots -/
def Owns (key : String) : Prop := ∃ slot < s.config.maxSlots, key = s.keyOf slot

theorem keyOf_injective : Function.Injective s.keyOf := by
  intro a b hab
  have hdigits : Text.digits a = Text.digits b := by
    have hrepr := congrArg String.toList ((String.append_right_inj s.config.keyStem).1 hab)
    rwa [Nat.toString_eq_repr, Nat.toString_eq_repr, Nat.toList_repr, Nat.toList_repr] at hrepr
  have hvalue := congrArg Text.ofDigits hdigits
  rwa [Text.ofDigits_digits, Text.ofDigits_digits] at hvalue

variable {s} {slot : Nat} {contents : σ}

theorem key_within (hslot : slot < s.config.maxSlots) : s.key slot = .ok (s.keyOf slot) := if_pos hslot

theorem key_beyond (hslot : s.config.maxSlots ≤ slot) : s.key slot = .error ⟨slot, s.config.maxSlots⟩ :=
  if_neg (Nat.not_lt.2 hslot)

theorem owns_keyOf (hslot : slot < s.config.maxSlots) : s.Owns (s.keyOf slot) := ⟨slot, hslot, rfl⟩

/-! ## Media that may do anything -/

/-- the save that is read when the medium is asked for the slot: none when it fails or holds no save there -/
def readable (s : SaveSlots σ) (contents : σ) (slot : Nat) : Option SaveState :=
  (s.medium.get (s.keyOf slot) contents).1.toOption.join.bind fun bytes => (SaveState.ofBytes bytes).toOption

/-- the contents once the medium was asked for the slots below this one, in order -/
def askedBelow (s : SaveSlots σ) (contents : σ) (slot : Nat) : σ :=
  (List.range slot).foldl (fun contents i => (s.medium.get (s.keyOf i) contents).2) contents

theorem save_within (hslot : slot < s.config.maxSlots) (state : SaveState) :
    s.perform contents (.save slot state) = (.done (s.medium.set (s.keyOf slot) state.toBytes contents).1.isOk,
      (s.medium.set (s.keyOf slot) state.toBytes contents).2) := by
  simp only [perform, save, key_within hslot]
  split <;> rename_i hset <;> rw [hset] <;> rfl

theorem load_reply (contents : σ) (hslot : slot < s.config.maxSlots) :
    (s.load slot contents).answer = .ok (s.readable contents slot) ∧
      (s.load slot contents).contents = (s.medium.get (s.keyOf slot) contents).2 := by
  simp only [load, readable, key_within hslot]
  split
  case h_1 hget => rw [hget]; exact ⟨rfl, rfl⟩
  case h_2 hget => rw [hget]; exact ⟨rfl, rfl⟩
  case h_3 bytes _ hget =>
    rw [hget]
    cases hbytes : SaveState.ofBytes bytes with
    | ok state => simp [Except.toOption, hbytes]
    | error reason => simp [Except.toOption, hbytes]

theorem load_within (hslot : slot < s.config.maxSlots) : s.perform contents (.load slot) =
    (.found (s.readable contents slot), (s.medium.get (s.keyOf slot) contents).2) := by
  obtain ⟨hanswer, hcontents⟩ := load_reply contents hslot
  simp only [perform, outcome, hanswer, hcontents]

theorem delete_within (hslot : slot < s.config.maxSlots) : s.perform contents (.delete slot) =
    (.done (s.medium.remove (s.keyOf slot) contents).1.isOk, (s.medium.remove (s.keyOf slot) contents).2) := by
  simp only [perform, delete, key_within hslot]
  split <;> rename_i hremove <;> rw [hremove] <;> rfl

theorem perform_beyond {call : SlotCall} (hcall : call.slot? = some slot) (hslot : s.config.maxSlots ≤ slot) :
    s.perform contents call = (.refused ⟨slot, s.config.maxSlots⟩, contents) := by
  cases call with
  | list => cases hcall
  | save n state => cases hcall; simp only [perform, save, key_beyond hslot, outcome]
  | load n => cases hcall; simp only [perform, load, key_beyond hslot, outcome]
  | delete n => cases hcall; simp only [perform, delete, key_beyond hslot, outcome]

theorem askedBelow_succ : s.askedBelow contents (slot + 1) =
    (s.medium.get (s.keyOf slot) (s.askedBelow contents slot)).2 := by
  simp only [askedBelow, List.range_succ, List.foldl_append, List.foldl_cons, List.foldl_nil]

/-- the slots are asked in order, each in the contents that the ones before it left -/
theorem listFrom_range (contents : σ) (slot count : Nat) (hcount : slot + count ≤ s.config.maxSlots) :
    (s.listFrom (List.range' slot count) (s.askedBelow contents slot)).1 =
      (List.range' slot count).filterMap (fun i => (s.readable (s.askedBelow contents i) i).map (SlotEntry.mk i)) ∧
    (s.listFrom (List.range' slot count) (s.askedBelow contents slot)).2.1 = s.askedBelow contents (slot + count) := by
  induction count generalizing slot with
  | zero => exact ⟨rfl, rfl⟩
  | succ count ih =>
    have hslot : slot < s.config.maxSlots := by omega
    obtain ⟨hanswer, hcontents⟩ := load_reply (s.askedBelow contents slot) hslot
    obtain ⟨hentries, hafter⟩ := ih (slot + 1) (by omega)
    rw [List.range'_succ, List.filterMap_cons]
    simp only [listFrom, hanswer, hcontents, ← askedBelow_succ]
    have hend : slot + (count + 1) = slot + 1 + count := by omega
    rw [hend]
    cases s.readable (s.askedBelow contents slot) slot with
    | none => exact ⟨hentries, hafter⟩
    | some state => exact ⟨congrArg _ hentries, hafter⟩

theorem perform_list : s.perform contents .list =
    (.entries ((List.range s.config.maxSlots).filterMap fun i =>
      (s.readable (s.askedBelow contents i) i).map (SlotEntry.mk i)), s.askedBelow contents s.config.maxSlots) := by
  obtain ⟨hentries, hafter⟩ := s.listFrom_range contents 0 s.config.maxSlots (by omega)
  rw [Nat.zero_add] at hafter
  rw [← List.range_eq_range'] at hentries hafter
  exact Prod.ext (congrArg SlotAnswer.entries hentries) hafter

/-! ## Contents that stand for a shelf -/

/-- the contents hold the written saves of the shelf under the keys of its slots -/
structure Stores (s : SaveSlots σ) (view : σ → String → Option ByteArray) (contents : σ)
    (shelf : Shelf s.config.maxSlots) : Prop where
  bytes : ∀ i : Fin s.config.maxSlots, view contents (s.keyOf i) = (shelf i).map SaveState.toBytes
  fits : ∀ i state, shelf i = some state → state.Fits

variable {view : σ → String → Option ByteArray} {shelf : Shelf s.config.maxSlots}

theorem Stores.readable (hmap : s.medium.IsMap s.Owns view) (hstores : s.Stores view contents shelf)
    (i : Fin s.config.maxSlots) : s.readable contents i = shelf i := by
  have hget := hmap.get_answer _ contents (owns_keyOf i.isLt)
  rw [SaveSlots.readable, hget, hstores.bytes i]
  cases hstate : shelf i with
  | none => rfl
  | some state =>
    have hread := SaveState.ofBytes_toBytes (hstores.fits i state hstate)
    simp [Except.toOption, hread]

/-- one slot is written anew, or emptied -/
theorem Stores.update (hstores : s.Stores view contents shelf) (i : Fin s.config.maxSlots) {entry : Option SaveState}
    (hfits : ∀ state, entry = some state → state.Fits) {after : σ}
    (hafter : view after = Function.update (view contents) (s.keyOf i) (entry.map SaveState.toBytes)) :
    s.Stores view after (Function.update shelf i entry) := by
  refine ⟨fun j => ?_, fun j state hstate => ?_⟩
  · rw [hafter]
    by_cases hj : j = i
    · subst hj
      rw [Function.update_self, Function.update_self]
    · have hkey : s.keyOf j ≠ s.keyOf i := fun h => hj (Fin.ext (s.keyOf_injective h))
      rw [Function.update_of_ne hkey, Function.update_of_ne hj]
      exact hstores.bytes j
  · by_cases hj : j = i
    · subst hj
      rw [Function.update_self] at hstate
      exact hfits state hstate
    · rw [Function.update_of_ne hj] at hstate
      exact hstores.fits j state hstate

theorem Stores.congr (hstores : s.Stores view contents shelf) {after : σ} (hafter : view after = view contents) :
    s.Stores view after shelf := ⟨fun i => hafter ▸ hstores.bytes i, hstores.fits⟩

theorem view_askedBelow (contents : σ) (hmap : s.medium.IsMap s.Owns view) (hslot : slot ≤ s.config.maxSlots) :
    view (s.askedBelow contents slot) = view contents := by
  induction slot with
  | zero => rfl
  | succ slot ih =>
    rw [askedBelow_succ, hmap.get_view _ _ (owns_keyOf hslot)]
    exact ih (by omega)

theorem Stores.entries (hmap : s.medium.IsMap s.Owns view) (hstores : s.Stores view contents shelf) :
    ((List.range s.config.maxSlots).filterMap fun i =>
      (s.readable (s.askedBelow contents i) i).map (SlotEntry.mk i)) =
    (List.finRange s.config.maxSlots).filterMap fun i => (shelf i).map (SlotEntry.mk i) := by
  rw [← List.map_coe_finRange_eq_range, List.filterMap_map]
  refine List.filterMap_congr fun i _ => ?_
  have hasked := hstores.congr (view_askedBelow contents hmap i.isLt.le)
  rw [Function.comp_apply, hasked.readable hmap i]

/-- what a call, or a run of them, comes to on slots and on a shelf -/
structure Agrees {α : Type} (s : SaveSlots σ) (view : σ → String → Option ByteArray) (contents : σ)
    (stored : α × σ) (shelved : α × Shelf s.config.maxSlots) : Prop where
  answer : stored.1 = shelved.1
  stores : s.Stores view stored.2 shelved.2
  others : ∀ key, ¬ s.Owns key → view stored.2 key = view contents key

theorem perform_agrees (hmap : s.medium.IsMap s.Owns view) (hstores : s.Stores view contents shelf) {call : SlotCall}
    (hfits : call.Fits) : s.Agrees view contents (s.perform contents call) (shelf.perform call) := by
  -- a slot that is not there is refused on both sides
  have hbeyond : ∀ slot, call.slot? = some slot → s.config.maxSlots ≤ slot →
      shelf.perform call = (.refused ⟨slot, s.config.maxSlots⟩, shelf) →
      s.Agrees view contents (s.perform contents call) (shelf.perform call) := by
    intro slot hcall hslot hshelf
    rw [perform_beyond hcall hslot, hshelf]
    exact ⟨rfl, hstores, fun _ _ => rfl⟩
  -- other keys keep what they hold when the key of a slot is written
  have hothers : ∀ {slot : Nat} {entry : Option ByteArray}, slot < s.config.maxSlots → ∀ key, ¬ s.Owns key →
      Function.update (view contents) (s.keyOf slot) entry key = view contents key := by
    intro slot entry hslot key hkey
    have hne : key ≠ s.keyOf slot := fun h => hkey ⟨slot, hslot, h⟩
    exact Function.update_of_ne hne _ _
  cases call with
  | save slot state =>
    by_cases hslot : slot < s.config.maxSlots
    · have hview := hmap.set_view _ state.toBytes contents (owns_keyOf hslot)
      rw [save_within hslot, hmap.set_answer _ _ _ (owns_keyOf hslot)]
      simp only [Shelf.perform, Shelf.within, hslot, dif_pos]
      refine ⟨rfl, hstores.update ⟨slot, hslot⟩ ?_ hview, fun key hkey => ?_⟩
      · rintro _ ⟨⟩
        exact hfits
      · exact (congrFun hview key).trans (hothers hslot key hkey)
    · exact hbeyond slot rfl (Nat.not_lt.1 hslot) (dif_neg hslot)
  | load slot =>
    by_cases hslot : slot < s.config.maxSlots
    · have hview := hmap.get_view _ contents (owns_keyOf hslot)
      rw [load_within hslot]
      simp only [Shelf.perform, Shelf.within, hslot, dif_pos]
      exact ⟨congrArg SlotAnswer.found (hstores.readable hmap ⟨slot, hslot⟩), hstores.congr hview,
        fun key _ => congrFun hview key⟩
    · exact hbeyond slot rfl (Nat.not_lt.1 hslot) (dif_neg hslot)
  | delete slot =>
    by_cases hslot : slot < s.config.maxSlots
    · have hview := hmap.remove_view _ contents (owns_keyOf hslot)
      rw [delete_within hslot, hmap.remove_answer _ _ (owns_keyOf hslot)]
      simp only [Shelf.perform, Shelf.within, hslot, dif_pos]
      refine ⟨rfl, hstores.update ⟨slot, hslot⟩ (by rintro _ ⟨⟩) hview, fun key hkey => ?_⟩
      exact (congrFun hview key).trans (hothers hslot key hkey)
    · exact hbeyond slot rfl (Nat.not_lt.1 hslot) (dif_neg hslot)
  | list =>
    have hview := view_askedBelow contents hmap (Nat.le_refl s.config.maxSlots)
    rw [perform_list]
    exact ⟨congrArg SlotAnswer.entries (hstores.entries hmap), hstores.congr hview, fun key _ => congrFun hview key⟩

theorem answerAll_agrees (hmap : s.medium.IsMap s.Owns view) (calls : List SlotCall)
    (hfits : ∀ call ∈ calls, call.Fits) (hstores : s.Stores view contents shelf) :
    s.Agrees view contents (SlotCall.answerAll s.perform contents calls)
      (SlotCall.answerAll Shelf.perform shelf calls) := by
  induction calls generalizing contents shelf with
  | nil => exact ⟨rfl, hstores, fun _ _ => rfl⟩
  | cons call calls ih =>
    obtain ⟨hcall, hcalls⟩ := List.forall_mem_cons.1 hfits
    have hfirst := perform_agrees hmap hstores hcall
    have hrest := ih hcalls hfirst.stores
    refine ⟨?_, hrest.stores, fun key hkey => (hrest.others key hkey).trans (hfirst.others key hkey)⟩
    simp only [SlotCall.answerAll, hfirst.answer, hrest.answer]

theorem Stores.empty (h : ∀ key, s.Owns key → view contents key = none) : s.Stores view contents Shelf.empty where
  bytes i := h _ (owns_keyOf i.isLt)
  fits := by rintro i state ⟨⟩

/-- what calls come to on a medium that may fail in any way, change whatever it is asked and hold any bytes -/
structure Absorbs (s : SaveSlots σ) (contents : σ) : Prop where
  /-- the one error; the medium is not asked -/
  beyond : ∀ call slot, call.slot? = some slot → s.config.maxSlots ≤ slot →
    s.perform contents call = (.refused ⟨slot, s.config.maxSlots⟩, contents)
  save : ∀ slot < s.config.maxSlots, ∀ state, s.perform contents (.save slot state) =
    (.done (s.medium.set (s.keyOf slot) state.toBytes contents).1.isOk,
      (s.medium.set (s.keyOf slot) state.toBytes contents).2)
  load : ∀ slot < s.config.maxSlots, s.perform contents (.load slot) =
    (.found (s.readable contents slot), (s.medium.get (s.keyOf slot) contents).2)
  delete : ∀ slot < s.config.maxSlots, s.perform contents (.delete slot) =
    (.done (s.medium.remove (s.keyOf slot) contents).1.isOk, (s.medium.remove (s.keyOf slot) contents).2)
  /-- slots that cannot be read are passed over -/
  list : s.perform contents .list =
    (.entries ((List.range s.config.maxSlots).filterMap fun i =>
      (s.readable (s.askedBelow contents i) i).map (SlotEntry.mk i)), s.askedBelow contents s.config.maxSlots)

theorem absorbs (s : SaveSlots σ) (contents : σ) : s.Absorbs contents where
  beyond _ _ hcall hslot := perform_beyond hcall hslot
  save _ hslot state := save_within hslot state
  load _ hslot := load_within hslot
  delete _ hslot := delete_within hslot
  list := perform_list

end SaveSlots

/-- **Save slots are a bounded map.** On the memory, and on any other medium that is a map on the keys of the slots, all
calls are answered as on a shelf, whose slots hold what was saved last and not deleted since, and no other key changes.
On any medium whatever, a number beyond the bound is the only error, and failures are answers. -/
theorem slots_are_bounded_map {σ : Type} (s : SaveSlots σ) :
    (∀ keys, Medium.memory.IsMap keys fun m key => m.lookup key) ∧
    (∀ view, s.medium.IsMap s.Owns view → ∀ contents, (∀ key, s.Owns key → view contents key = none) →
      ∀ calls : List SlotCall, (∀ call ∈ calls, call.Fits) →
        (SlotCall.answerAll s.perform contents calls).1 =
          (SlotCall.answerAll Shelf.perform (Shelf.empty : Shelf s.config.maxSlots) calls).1 ∧
        ∀ key, ¬ s.Owns key → view (SlotCall.answerAll s.perform contents calls).2 key = view contents key) ∧
    (∀ (calls : List SlotCall) (i : Fin s.config.maxSlots),
      (SlotCall.answerAll Shelf.perform Shelf.empty calls).2 i =
        (calls.reverse.findSome? (SlotCall.leaves i)).getD none) ∧
    ∀ contents, s.Absorbs contents := by
  refine ⟨Medium.memory_isMap, ?_, fun calls i => Shelf.answerAll_apply .empty calls i, s.absorbs⟩
  intro view hmap contents hempty calls hfits
  have hagrees := SaveSlots.answerAll_agrees hmap calls hfits (.empty hempty)
  exact ⟨hagrees.answer, hagrees.others⟩

/-- twelve slots in memory, under keys whose stem ends in a digit -/
def memorySlots : SaveSlots Memory := ⟨.memory, ⟨12, "save1"⟩⟩

/-- an early save and a later one -/
def earlySave : SaveState := ⟨0, 2, some "room", none, none, 7, some (-3), none⟩

def laterSave : SaveState := ⟨1, 0, none, none, some "rain", 8, some 4, some "d41d"⟩

/-- a memory that holds something else -/
def quietMemory : Memory := [("settings", "quiet".toUTF8)]

/-- the first slot is written and cleared, the last is written, and all are looked at -/
def slotCalls : List SlotCall :=
  [.save 1 earlySave, .save 11 laterSave, .delete 1, .load 1, .load 11, .load 12, .list]

/-- Slots 1 and 11 have the keys `save11` and `save111`; clearing the first leaves the second. -/
theorem slots_on_memory :
    (SlotCall.answerAll memorySlots.perform quietMemory slotCalls).1 =
      [.done true, .done true, .done true, .found none, .found (some laterSave), .refused ⟨12, 12⟩,
        .entries [⟨11, laterSave⟩]] ∧
    (SlotCall.answerAll memorySlots.perform quietMemory slotCalls).2.lookup "settings" =
      some "quiet".toUTF8 := by
  have hearly : earlySave.Fits := ⟨by decide, by decide, by decide, by rintro id ⟨⟩; decide⟩
  have hlater : laterSave.Fits := ⟨by decide, by decide, by decide, by rintro id ⟨⟩; decide⟩
  have hfits : ∀ call ∈ slotCalls, call.Fits := by
    simp only [slotCalls, List.forall_mem_cons, SlotCall.Fits, hearly, hlater, true_and]
    exact List.forall_mem_nil _
  have hforeign : ¬ memorySlots.Owns "settings" := by
    rintro ⟨slot, hslot, hkey⟩
    have hbound : slot < 12 := hslot
    interval_cases slot <;> exact absurd hkey (by decide)
  have hempty : ∀ key, memorySlots.Owns key → quietMemory.lookup key = none := by
    intro key hkey
    have hne : key ≠ "settings" := fun h => hforeign (h ▸ hkey)
    simp only [quietMemory, List.lookup_cons, List.lookup_nil, beq_false_of_ne hne]
  obtain ⟨hanswers, hothers⟩ :=
    (slots_are_bounded_map memorySlots).2.1 _ (Medium.memory_isMap _) quietMemory hempty slotCalls hfits
  exact ⟨hanswers, hothers "settings" hforeign⟩

end VisualNovel
