/-
What decoders take.

- `Exact`: the decoder takes what is written for the things in range and nothing else. Texts, integers and sizes are
  decoded exactly, and so are options and lists of what is (`Exact.orNull`, `Exact.list`).
- `IsListOf`: the value is an array whose elements stand for these things in turn, for any notion of standing for a
  thing. A list is decoded from the arrays that stand for it (`asList_ok_iff`).
- An object tells the members of a record by name: neither their order nor members of other names matter
  (`tells_object_iff`). A member that is left out tells its default (`Fields.withDefault_eq`).
-/
import Mathlib.Data.List.Forall2
import Mathlib.Data.List.Nodup
import VisualNovel.Json.Decode

namespace VisualNovel.Json

variable {α : Type} {encode : α → Json} {fits : α → Prop} {decoder : Decoder α}

theorem bind_ok_iff {ε β : Type} {x : Except ε α} {next : α → Except ε β} {b : β} :
    (x >>= next) = .ok b ↔ ∃ a, x = .ok a ∧ next a = .ok b := by
  cases x with
  | error e => simp [bind, Except.bind]
  | ok a => simp [bind, Except.bind]

theorem bind_ok {ε β : Type} (a : α) (next : α → Except ε β) : (Except.ok a >>= next) = next a := rfl

/-! ## Scalars -/

/-- the decoder takes what is written for the things in range, and nothing else -/
def Exact (encode : α → Json) (fits : α → Prop) (decoder : Decoder α) : Prop :=
  ∀ v a, decoder v = .ok a ↔ v = encode a ∧ fits a

/-- null for none -/
def orNull (encode : α → Json) : Option α → Json
  | some a => encode a
  | none => .null

theorem orNull_text (t : Option String) : orNull text t = optText t := by
  cases t <;> rfl

theorem exact_text : Exact text (fun _ => True) asText := by
  intro v a
  cases v with
  | str t => cases t <;> simp [asText, text]
  | _ => simp [asText, text]

theorem exact_size : Exact nat (fun n => n ≤ Text.sizeMax) asSize := by
  intro v a
  cases v with
  | int n =>
    simp only [asSize, nat, int.injEq]
    split
    · rename_i hrange
      simp only [Except.ok.injEq]
      omega
    · rename_i hrange
      simp only [reduceCtorEq, false_iff]
      omega
  | _ => simp [asSize, nat]

theorem exact_intIn (least greatest : Int) :
    Exact .int (fun n => least ≤ n ∧ n ≤ greatest) (asIntIn least greatest) := by
  intro v a
  cases v with
  | int n =>
    simp only [asIntIn, int.injEq]
    split
    · rename_i hrange
      simp only [Except.ok.injEq]
      exact ⟨fun h => ⟨h, h ▸ hrange⟩, And.left⟩
    · rename_i hrange
      simp only [reduceCtorEq, false_iff]
      rintro ⟨rfl, h⟩
      exact hrange h
  | _ => simp [asIntIn]

theorem exact_int32 : Exact .int (fun n => -Int.pow 2 31 ≤ n ∧ n ≤ Int.pow 2 31 - 1) asInt32 := exact_intIn _ _

theorem exact_int64 : Exact .int (fun n => -Int.pow 2 63 ≤ n ∧ n ≤ Int.pow 2 63 - 1) asInt64 := exact_intIn _ _

theorem asOption_of_ne_null {v : Json} (hv : v ≠ .null) : asOption decoder v = (decoder v).map some := by
  cases v with
  | null => exact absurd rfl hv
  | _ => rfl

/-- null is not written for anything else -/
theorem Exact.orNull (hexact : Exact encode fits decoder) (hnull : ∀ a, encode a ≠ .null) :
    Exact (orNull encode) (fun o => ∀ a ∈ o, fits a) (asOption decoder) := by
  intro v o
  by_cases hv : v = .null
  · subst hv
    cases o with
    | none => simp [asOption, Json.orNull]
    | some a =>
      simp only [asOption, Except.ok.injEq, reduceCtorEq, false_iff, Json.orNull]
      exact fun h => hnull a h.1.symm
  · rw [asOption_of_ne_null hv]
    cases o with
    | none =>
      simp only [Json.orNull, hv, false_and, iff_false]
      cases decoder v <;> simp [Except.map]
    | some a =>
      have hmap : (decoder v).map some = .ok (some a) ↔ decoder v = .ok a := by
        cases decoder v <;> simp [Except.map]
      simp only [hmap, hexact v a, Json.orNull, Option.mem_some_iff, forall_eq']

/-! ## Lists -/

/-- an array whose elements stand for these things in turn -/
def IsListOf (stands : Json → α → Prop) (v : Json) (as : List α) : Prop :=
  ∃ vs, v = .arr vs ∧ List.Forall₂ stands vs as

variable {stands : Json → α → Prop} {v : Json} {as : List α}

theorem mapM_ok_iff {vs : List Json} :
    vs.mapM decoder = .ok as ↔ List.Forall₂ (fun v a => decoder v = .ok a) vs as := by
  induction vs generalizing as with
  | nil => simp [pure, Except.pure, eq_comm]
  | cons v vs ih =>
    simp only [List.mapM_cons, bind_ok_iff, pure, Except.pure, Except.ok.injEq, ih, List.forall₂_cons_left_iff]
    exact ⟨fun ⟨a, ha, rest, hrest, h⟩ => ⟨a, rest, ha, hrest, h.symm⟩,
      fun ⟨a, rest, ha, hrest, h⟩ => ⟨a, ha, rest, hrest, h.symm⟩⟩

theorem asList_ok_iff : asList decoder v = .ok as ↔ IsListOf (fun v a => decoder v = .ok a) v as := by
  cases v with
  | arr vs => simp only [asList, mapM_ok_iff, IsListOf, arr.injEq, exists_eq_left']
  | _ => simp [asList, IsListOf]

theorem isListOf_map (h : ∀ a ∈ as, stands (encode a) a) : IsListOf stands (.arr (as.map encode)) as := by
  refine ⟨_, rfl, ?_⟩
  rw [List.forall₂_map_left_iff, List.forall₂_same]
  exact h

theorem isListOf_and : IsListOf (fun v a => stands v a ∧ fits a) v as ↔ IsListOf stands v as ∧ ∀ a ∈ as, fits a := by
  have helements : ∀ vs, List.Forall₂ (fun v a => stands v a ∧ fits a) vs as ↔
      List.Forall₂ stands vs as ∧ ∀ a ∈ as, fits a := by
    induction as with
    | nil => simp
    | cons a as ih =>
      intro vs
      simp only [List.forall₂_cons_right_iff, ih, List.forall_mem_cons]
      constructor
      · rintro ⟨v, vs, ⟨hv, ha⟩, ⟨hvs, has⟩, rfl⟩
        exact ⟨⟨v, vs, hv, hvs, rfl⟩, ha, has⟩
      · rintro ⟨⟨v, vs, hv, hvs, rfl⟩, ha, has⟩
        exact ⟨v, vs, ⟨hv, ha⟩, ⟨hvs, has⟩, rfl⟩
  simp only [IsListOf, helements, ← and_assoc, exists_and_right]

/-- an array stands for one list when each value stands for one thing -/
theorem isListOf_unique (hunique : Relator.RightUnique stands) : Relator.RightUnique (IsListOf stands) := by
  rintro _ as bs ⟨vs, rfl, has⟩ ⟨_, ⟨⟩, hbs⟩
  exact List.right_unique_forall₂' hunique has hbs

theorem Exact.list (hexact : Exact encode fits decoder) :
    Exact (fun as => .arr (as.map encode)) (fun as => ∀ a ∈ as, fits a) (asList decoder) := by
  have hwritten : ∀ v as, IsListOf (fun v a => v = encode a) v as ↔ v = .arr (as.map encode) := by
    intro v as
    refine ⟨?_, fun h => h ▸ isListOf_map fun _ _ => rfl⟩
    rintro ⟨vs, rfl, hvs⟩
    induction hvs with
    | nil => rfl
    | cons ha _ ih =>
      rw [ha, List.map_cons, ← arr.inj ih]
  intro v as
  simp only [asList_ok_iff, hexact _ _, isListOf_and, hwritten]

theorem exact_texts : Exact texts (fun _ => True) (asList asText) := by
  intro v ss
  rw [exact_text.list]
  simp [texts]

theorem list_injective (hencode : Function.Injective encode) :
    Function.Injective fun as : List α => Json.arr (as.map encode) := by
  intro as bs h
  exact List.map_injective_iff.2 hencode (arr.inj h)

theorem text_injective : Function.Injective text := by
  intro s t h
  cases h
  rfl

theorem int_injective : Function.Injective Json.int := fun _ _ h => int.inj h

/-! ## Records -/

theorem namedMembers_object (members : List (String × Json)) :
    namedMembers (members.map fun m => (some m.1, m.2)) = .ok members := by
  induction members with
  | nil => rfl
  | cons m members ih =>
    rw [List.map_cons, namedMembers, ih]
    rfl

/-- no name that is known occurs more than once -/
def KnownOnce (names : List String) (members : List (String × Json)) : Prop :=
  ∀ name ∈ names, (members.map Prod.fst).count name ≤ 1

theorem repeatedName_eq_none_iff {names : List String} {members : List (String × Json)} :
    repeatedName names members = none ↔ KnownOnce names members := by
  have hcount : ∀ name : String, members.countP (fun m => m.1 == name) = (members.map Prod.fst).count name := by
    intro name
    rw [List.count, List.countP_map]
    rfl
  simp only [repeatedName, List.find?_eq_none, hcount, decide_eq_true_eq, Nat.not_lt, KnownOnce]

theorem ofRecord_object_iff {members : List (String × Json)} {names : List String} {wanted : String} {f : Fields} :
    Fields.ofRecord names wanted (.object members) = .ok f ↔
      KnownOnce names members ∧ f = ⟨none, wanted, fun name => members.lookup name⟩ := by
  have hmembers := namedMembers_object members
  simp only [Fields.ofRecord, object, Fields.ofMembers, hmembers, ← repeatedName_eq_none_iff]
  cases repeatedName names members with
  | none => simp only [Except.ok.injEq, true_and, eq_comm]
  | some name => simp only [reduceCtorEq, false_and]

/-- what an object tells goes by its known members alone: by the values of their names, in any order -/
theorem tells_object_iff (tells : (String → Option Json) → Prop) {members : List (String × Json)}
    {names : List String} {wanted : String} :
    (∃ f, Fields.ofRecord names wanted (.object members) = .ok f ∧ tells f.get?) ↔
      KnownOnce names members ∧ tells fun name => members.lookup name := by
  simp only [ofRecord_object_iff]
  constructor
  · rintro ⟨_, ⟨honce, rfl⟩, htells⟩
    exact ⟨honce, htells⟩
  · rintro ⟨honce, htells⟩
    exact ⟨_, ⟨honce, rfl⟩, htells⟩

/-- an object whose names are all different gives its members by name -/
theorem ofRecord_object {members : List (String × Json)} (hnodup : (members.map Prod.fst).Nodup)
    (names : List String) (wanted : String) :
    Fields.ofRecord names wanted (.object members) = .ok ⟨none, wanted, fun name => members.lookup name⟩ :=
  ofRecord_object_iff.2 ⟨fun name _ => List.nodup_iff_count_le_one.1 hnodup name, rfl⟩

theorem Fields.required_ok_iff {f : Fields} {name : String} {a : α} :
    f.required name decoder = .ok a ↔ ∃ v, f.get? name = some v ∧ decoder v = .ok a := by
  unfold Fields.required
  cases f.get? name <;> simp

/-- a member that is left out tells its default -/
theorem Fields.withDefault_eq {f : Fields} {name : String} {default : α} {told : Json}
    (htold : decoder told = .ok default) :
    f.withDefault name decoder default = decoder ((f.get? name).getD told) := by
  unfold Fields.withDefault
  cases f.get? name with
  | none => exact htold.symm
  | some v => rfl

theorem Fields.required_exact (hexact : Exact encode fits decoder) {f : Fields} {name : String} {a : α} :
    f.required name decoder = .ok a ↔ f.get? name = some (encode a) ∧ fits a := by
  simp only [required_ok_iff, hexact _ a]
  exact ⟨fun ⟨v, hv, he, ha⟩ => ⟨he ▸ hv, ha⟩, fun ⟨hv, ha⟩ => ⟨_, hv, rfl, ha⟩⟩

theorem Fields.optional_fits (hexact : Exact encode fits decoder) (hnull : ∀ a, encode a ≠ .null) {f : Fields}
    {name : String} {o : Option α} (h : f.optional name decoder = .ok o) : ∀ a ∈ o, fits a := by
  unfold Fields.optional at h
  cases hv : f.get? name with
  | some v =>
    simp only [hv] at h
    exact ((hexact.orNull hnull v o).1 h).2
  | none =>
    simp only [hv] at h
    cases hpositional : f.positional.isSome <;> rw [hpositional] at h <;> cases h
    rintro a ⟨⟩

theorem Fields.withDefault_exact (hexact : Exact encode fits decoder) {f : Fields} {name : String} {a default : α}
    {told : Json} (htold : decoder told = .ok default) :
    f.withDefault name decoder default = .ok a ↔ (f.get? name).getD told = encode a ∧ fits a := by
  rw [withDefault_eq htold, hexact]

theorem Fields.withDefault_list (hdecoder : ∀ v a, decoder v = .ok a ↔ stands v a ∧ fits a) {f : Fields}
    {name : String} : f.withDefault name (asList decoder) [] = .ok as ↔
      IsListOf stands ((f.get? name).getD (.arr [])) as ∧ ∀ a ∈ as, fits a := by
  have hempty : asList decoder (.arr []) = .ok [] := rfl
  simp only [withDefault_eq hempty, asList_ok_iff, hdecoder, isListOf_and]

end VisualNovel.Json
