/-
Documents in other words.

- `Restates`: the written members, once each, in any order and among members of other names; a null may be left out. Who
  asks for the written members by name is told the same (`Restates.lookup_some`, `Restates.lookup_getD`).
- Some values are kept before they are asked for. Texts can be kept, and so can integers within 64 bits (`bears_int`). So
  it is the added members that decide (`bearsAdded`, `Restates.bearsAdded_eq`).
- `tagged_restated`: a tagged document in other words holds what it held, unless its content stands before its tag and
  cannot be kept.
-/
import VisualNovel.Proofs.Decoders

namespace VisualNovel.Json

/-! ## Numbers that are kept -/

theorem le_ofDigitChars (n : Nat) (ds : List Char) : n ≤ Nat.ofDigitChars 10 ds n := by
  rw [Nat.ofDigitChars_eq_ofDigitChars_zero]
  have hscaled := Nat.le_mul_of_pos_left n (Nat.pow_pos (show 0 < 10 by decide) : 0 < 10 ^ ds.length)
  omega

/-- no digit is left over while the whole fits -/
theorem significand_of_le (ds : List Char) (n : Nat) (h : Nat.ofDigitChars 10 ds n ≤ Text.sizeMax) :
    significand n ds = (Nat.ofDigitChars 10 ds n, []) := by
  induction ds generalizing n with
  | nil => simp [significand]
  | cons d ds ih =>
    rw [Nat.ofDigitChars_cons, Nat.mul_comm] at h ⊢
    have hlonger := Nat.le_trans (le_ofDigitChars _ ds) h
    rw [significand, if_pos hlonger]
    exact ih _ h

/-- rounding at most doubles -/
theorem nearestFloat_le (n : Nat) : nearestFloat n ≤ 2 * n := by
  rcases Nat.eq_zero_or_pos n with rfl | hn
  · decide
  · have hunit : Nat.pow 2 (n.log2 - 52) ≤ n :=
      Nat.le_trans (Nat.pow_le_pow_right (by decide) (Nat.sub_le _ _)) (Nat.log2_self_le (by omega))
    have hbelow := Nat.div_mul_le_self n (Nat.pow 2 (n.log2 - 52))
    simp only [nearestFloat]
    split
    · rw [Nat.add_mul, Nat.one_mul]
      omega
    · omega

theorem isTooLarge_digits {n : Nat} (h : n ≤ Text.sizeMax) : isTooLarge (Text.digits n) [] 0 = false := by
  have hwhole : significand 0 (Text.digits n) = (n, []) := by
    have hvalue : Nat.ofDigitChars 10 (Text.digits n) 0 = n := Text.ofDigits_digits n
    rw [significand_of_le _ _ (hvalue.symm ▸ h), hvalue]
  have hone : nearestFloat (Nat.pow 10 0) = 1 := nearestFloat_of_lt (by decide)
  have hsmall : nearestFloat n * nearestFloat (Nat.pow 10 0) < floatBound := by
    have hbound : 2 * Text.sizeMax < floatBound := by decide +kernel
    rw [hone, Nat.mul_one]
    exact Nat.lt_of_le_of_lt (Nat.le_trans (nearestFloat_le n) (Nat.mul_le_mul_left 2 h)) hbound
  simp only [isTooLarge, hwhole, significand, List.length_nil]
  simpa [tenMax] using fun _ => hsmall

/-- an integer within 64 bits can be kept -/
theorem bears_int {n : Int} (h : n.natAbs ≤ Text.sizeMax) (room : Nat) : (int n).bears room = true := by
  rw [bears, isTooLarge_digits h]
  rfl

theorem natAbs_le_of_int32 {n : Int} (h : -Int.pow 2 31 ≤ n ∧ n ≤ Int.pow 2 31 - 1) : n.natAbs ≤ Text.sizeMax := by
  have hbits : Int.pow 2 31 = 2147483648 := rfl
  have hsize : Text.sizeMax = 18446744073709551615 := rfl
  omega

/-! ## Values that are kept -/

theorem bears_text (s : String) (room : Nat) : (text s).bears room = true := by
  rw [text, bears]
  rfl

theorem bears_optText (t : Option String) (room : Nat) : (optText t).bears room = true := by
  cases t with
  | none => rw [optText, bears]
  | some s => exact bears_text s room

theorem bears_list {α : Type} {encode : α → Json} {as : List α} {room : Nat}
    (h : ∀ a ∈ as, (encode a).bears room = true) : (arr (as.map encode)).bears (room + 1) = true := by
  have helements : bearsAll room (as.map encode) = true := by
    induction as with
    | nil => rw [List.map_nil, bearsAll]
    | cons a as ih =>
      obtain ⟨ha, has⟩ := List.forall_mem_cons.1 h
      rw [List.map_cons, bearsAll, ha, ih has]
      rfl
  rw [bears, Nat.add_sub_cancel, helements]
  simp

theorem bears_texts (ss : List String) (room : Nat) : (texts ss).bears (room + 1) = true :=
  bears_list fun s _ => bears_text s room

theorem bears_object (members : List (String × Json)) (room : Nat) :
    (object members).bears (room + 1) = members.all fun m => m.2.bears room := by
  have hmembers : bearsMembers room (members.map fun m => (some m.1, m.2)) = members.all fun m => m.2.bears room := by
    induction members with
    | nil => rw [List.map_nil, bearsMembers, List.all_nil]
    | cons m members ih =>
      rw [List.map_cons, bearsMembers, ih, List.all_cons, Option.isSome_some, Bool.true_and]
  rw [object, bears, Nat.add_sub_cancel, hmembers]
  simp

/-! ## Written members and added ones -/

/-- the written members are there, once each, in any order and among any others; those that are null may be left out -/
structure Restates (written members : List (String × Json)) : Prop where
  once : KnownOnce (written.map Prod.fst) members
  told : ∀ m ∈ written, members.lookup m.1 = some m.2 ∨ m.2 = .null ∧ members.lookup m.1 = none

/-- an object by its members, and the members of the content that it holds -/
structure Wording where
  members : List (String × Json)
  content : List (String × Json)

/-- whether the values of all members but the known ones can be kept -/
def bearsAdded (room : Nat) (known : List String) (members : List (String × Json)) : Bool :=
  members.all fun m => known.contains m.1 || m.2.bears room

/-- the members of an object by name -/
def Fields.named (wanted : String) (members : List (String × Json)) : Fields :=
  ⟨none, wanted, fun name => members.lookup name⟩

theorem lookup_of_mem {members : List (String × Json)} {m : String × Json}
    (honce : (members.map Prod.fst).count m.1 ≤ 1) (hm : m ∈ members) : members.lookup m.1 = some m.2 := by
  induction members with
  | nil => cases hm
  | cons first members ih =>
    rw [List.map_cons, List.count_cons] at honce
    rw [List.lookup_cons]
    by_cases hfirst : first.1 = m.1
    · -- the name does not occur again, so this is the member
      rw [if_pos (beq_iff_eq.2 hfirst)] at honce
      have hnone : m.1 ∉ members.map Prod.fst := List.count_eq_zero.1 (by omega)
      rcases List.mem_cons.1 hm with rfl | hm
      · simp
      · exact absurd (List.mem_map_of_mem hm) hnone
    · have hname : (m.1 == first.1) = false := beq_false_of_ne (Ne.symm hfirst)
      rcases List.mem_cons.1 hm with rfl | hm
      · exact absurd rfl hfirst
      · simp only [hname]
        exact ih (by omega) hm

/-- where all names are known nothing is added -/
theorem bearsAdded_known {known : List String} {members : List (String × Json)} (room : Nat)
    (h : ∀ m ∈ members, m.1 ∈ known) : bearsAdded room known members = true := by
  rw [bearsAdded, List.all_eq_true]
  intro m hm
  rw [List.contains_iff_mem.2 (h m hm), Bool.true_or]

namespace Restates

variable {written members : List (String × Json)} {name : String} {v : Json} {room : Nat}

theorem refl (hnodup : (written.map Prod.fst).Nodup) : Restates written written :=
  ⟨fun name _ => List.nodup_iff_count_le_one.1 hnodup name,
    fun m hm => .inl (lookup_of_mem (List.nodup_iff_count_le_one.1 hnodup m.1) hm)⟩

theorem lookup_some (h : Restates written members) (hm : (name, v) ∈ written) (hv : v ≠ .null) :
    members.lookup name = some v := (h.told _ hm).resolve_right fun hnull => hv hnull.1

/-- a null that is left out reads as null -/
theorem lookup_getD (h : Restates written members) (hm : (name, v) ∈ written) :
    (members.lookup name).getD .null = v := by
  rcases h.told _ hm with hsome | ⟨hnull, hnone⟩
  · rw [hsome, Option.getD_some]
  · rw [hnone, Option.getD_none]
    exact hnull.symm

/-- a null that is left out may as well be written -/
theorem append_null (h : Restates written members) (hname : name ∉ members.map Prod.fst) :
    Restates (written ++ [(name, .null)]) members where
  once other hother := by
    rw [List.map_append, List.mem_append] at hother
    rcases hother with hother | hother
    · exact h.once other hother
    · cases List.mem_singleton.1 hother
      rw [List.count_eq_zero.2 hname]
      exact Nat.zero_le 1
  told m hm := by
    rcases List.mem_append.1 hm with hm | hm
    · exact h.told m hm
    · cases List.mem_singleton.1 hm
      refine .inr ⟨rfl, List.lookup_eq_none_iff.2 fun m hm => ?_⟩
      simpa using fun hother : name = m.1 => hname (hother ▸ List.mem_map_of_mem hm)

theorem ofObject (h : Restates written members) {names : List String} (hnames : names ⊆ written.map Prod.fst)
    (wanted : String) : Fields.ofObject names wanted (.object members) = .ok (.named wanted members) :=
  ofRecord_object_iff.2 ⟨fun name hname => h.once name (hnames hname), rfl⟩

theorem ofRecord (h : Restates written members) {names : List String} (hnames : names ⊆ written.map Prod.fst)
    (wanted : String) : Fields.ofRecord names wanted (.object members) = .ok (.named wanted members) :=
  ofRecord_object_iff.2 ⟨fun name hname => h.once name (hnames hname), rfl⟩

section Asked

variable {α : Type} {encode : α → Json} {fits : α → Prop} {decoder : Decoder α}

/-- a member that must be there is decoded from what is written for it -/
theorem required (h : Restates written members) (decoder : Decoder α) (hm : (name, v) ∈ written) (hv : v ≠ .null)
    (wanted : String) : (Fields.named wanted members).required name decoder = decoder v := by
  have hlookup := h.lookup_some hm hv
  simp only [Fields.required, Fields.named, hlookup]

/-- a member that may be null is decoded from what is written for it, or from null where it is left out -/
theorem optional (h : Restates written members) (decoder : Decoder α) (hm : (name, v) ∈ written) (wanted : String) :
    (Fields.named wanted members).optional name decoder = asOption decoder v := by
  have htold := h.lookup_getD hm
  simp only [Fields.optional, Fields.named]
  cases hlookup : members.lookup name with
  | none =>
    rw [hlookup, Option.getD_none] at htold
    rw [← htold]
    rfl
  | some w =>
    rw [hlookup, Option.getD_some] at htold
    rw [htold]

theorem required_exact (h : Restates written members) (hexact : Exact encode fits decoder)
    (hnull : ∀ a, encode a ≠ .null) {a : α} (hm : (name, encode a) ∈ written) (ha : fits a) (wanted : String) :
    (Fields.named wanted members).required name decoder = .ok a := by
  rw [h.required decoder hm (hnull a), hexact]
  exact ⟨rfl, ha⟩

theorem optional_exact (h : Restates written members) (hexact : Exact encode fits decoder)
    (hnull : ∀ a, encode a ≠ .null) {o : Option α} (hm : (name, orNull encode o) ∈ written) (ho : ∀ a ∈ o, fits a)
    (wanted : String) : (Fields.named wanted members).optional name decoder = .ok o := by
  rw [h.optional decoder hm, hexact.orNull hnull]
  exact ⟨rfl, ho⟩

theorem required_text (h : Restates written members) {s : String} (hm : (name, text s) ∈ written) (wanted : String) :
    (Fields.named wanted members).required name asText = .ok s :=
  h.required_exact exact_text (by rintro _ ⟨⟩) hm trivial wanted

theorem required_texts (h : Restates written members) {ss : List String} (hm : (name, texts ss) ∈ written)
    (wanted : String) : (Fields.named wanted members).required name (asList asText) = .ok ss :=
  h.required_exact exact_texts (by rintro _ ⟨⟩) hm trivial wanted

theorem optional_text (h : Restates written members) {t : Option String} (hm : (name, optText t) ∈ written)
    (wanted : String) : (Fields.named wanted members).optional name asText = .ok t :=
  h.optional_exact exact_text (by rintro _ ⟨⟩) (orNull_text t ▸ hm) (fun _ _ => trivial) wanted

theorem required_choice (h : Restates written members) {choices : List (String × α)} {choice : String} {a : α}
    (hm : (name, text choice) ∈ written) (hchoice : choices.lookup choice = some a) (kept : Bool) (wanted : String) :
    (Fields.named wanted members).required name (asChoice kept choices) = .ok a := by
  rw [h.required _ hm (by rintro ⟨⟩)]
  simp only [asChoice, text, hchoice]

end Asked

/-- where the written values can be kept, the added ones decide, and those that are known may be asked or not -/
theorem bearsAdded_eq (h : Restates written members) (hwritten : ∀ m ∈ written, m.2.bears room = true)
    {known : List String} (hknown : known ⊆ written.map Prod.fst) :
    bearsAdded room known members = members.all fun m => m.2.bears room := by
  have hbears : ∀ m ∈ members, m.1 ∈ written.map Prod.fst → m.2.bears room = true := by
    intro m hm hname
    have hlookup := lookup_of_mem (h.once m.1 hname) hm
    obtain ⟨w, hw, hwname⟩ := List.mem_map.1 hname
    rcases h.told w hw with hsome | ⟨-, hnone⟩
    · rw [hwname, hlookup] at hsome
      rw [Option.some.inj hsome]
      exact hwritten w hw
    · rw [hwname, hlookup] at hnone
      cases hnone
  rw [Bool.eq_iff_iff, bearsAdded, List.all_eq_true, List.all_eq_true]
  refine forall₂_congr fun m hm => ?_
  simp only [Bool.or_eq_true, List.contains_iff_mem]
  exact ⟨fun hm' => hm'.elim (fun hname => hbears m hm (hknown hname)) id, .inr⟩

/-- content whose values are nested once at most can be kept when the added ones can -/
theorem bears_object (h : Restates written members) (hwritten : ∀ room, ∀ m ∈ written, m.2.bears (room + 1) = true)
    {around : Nat} (haround : around + 3 ≤ nestingMax) : (object members).bears (nestingMax - (around + 1)) =
      bearsAdded (nestingMax - (around + 2)) (written.map Prod.fst) members := by
  obtain ⟨room, hroom⟩ : ∃ room, nestingMax - (around + 2) = room + 1 := ⟨nestingMax - (around + 3), by omega⟩
  have hnext : nestingMax - (around + 1) = room + 1 + 1 := by omega
  rw [hroom, hnext, Json.bears_object, h.bearsAdded_eq (hwritten room) (List.Subset.refl _)]

end Restates

/-! ## Tagged documents -/

/-- whether the content stands before the tag, so that it is kept -/
def contentFirst (tagName contentName : String) (members : List (String × Json)) : Bool :=
  decide (members.findIdx (·.1 == contentName) < members.findIdx (·.1 == tagName))

section Tagging

variable {α : Type} {tagName contentName name : String} {tags : List (String × α)} {tag : α}
  {members : List (String × Json)} {content : Json}

theorem tagged_restated (h : Restates [(tagName, text name), (contentName, content)] members)
    (htag : tags.lookup name = some tag) (hcontent : content ≠ .null) (around : Nat) :
    tagged tagName contentName tags around (.object members) =
      if !contentFirst tagName contentName members || content.bears (nestingMax - (around + 1)) then
        .ok ⟨tag, some content, contentFirst tagName contentName members⟩
      else .error .garbled := by
  have hnone : repeatedName [tagName, contentName] members = none := repeatedName_eq_none_iff.2 h.once
  have hname : members.lookup tagName = some (text name) := h.lookup_some (by simp) (by simp [text])
  have hv : members.lookup contentName = some content := h.lookup_some (by simp) hcontent
  have hchoice : asChoice false tags (text name) = .ok tag := by
    simp only [asChoice, text, htag]
  have hmembers := namedMembers_object members
  have hswap : ∀ (first bears : Bool) (refused taken : Except Misfit (Tagged α)),
      (if first && !bears then refused else taken) = if !first || bears then taken else refused := by
    intro first bears refused taken
    cases first <;> cases bears <;> rfl
  simp only [tagged, object, hmembers, hnone, hname, hchoice, hv]
  exact hswap _ _ _ _

/-- a variant without content -/
theorem tagged_null (h : Restates [(tagName, text name), (contentName, .null)] members)
    (htag : tags.lookup name = some tag) (around : Nat) :
    ∃ t, tagged tagName contentName tags around (.object members) = .ok t ∧ t.tag = tag ∧ t.content.getD .null = .null := by
  have hnone : repeatedName [tagName, contentName] members = none := repeatedName_eq_none_iff.2 h.once
  have hname : members.lookup tagName = some (text name) := h.lookup_some (by simp) (by simp [text])
  have hchoice : asChoice false tags (text name) = .ok tag := by
    simp only [asChoice, text, htag]
  have hmembers := namedMembers_object members
  rcases h.told (contentName, .null) (by simp) with hv | ⟨-, hv⟩
  · refine ⟨⟨tag, some .null, contentFirst tagName contentName members⟩, ?_, rfl, rfl⟩
    have hbears : bears (nestingMax - (around + 1)) .null = true := by rw [bears]
    simp only [tagged, object, hmembers, hnone, hname, hchoice, hv, hbears, Bool.not_true, Bool.and_false]
    rfl
  · refine ⟨⟨tag, none, false⟩, ?_, rfl, rfl⟩
    simp only [tagged, object, hmembers, hnone, hname, hchoice, hv]

end Tagging

end VisualNovel.Json
