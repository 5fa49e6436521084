/-
Byte offsets into text. A text is kept as UTF-8, so it is searched and cut at offsets that count bytes, of which a
character takes one to four. `cut?` divides a text at an offset, and gives nothing where no character starts and the text
does not end; a slice whose end lies before its start is nothing either.

- `cut?_eq_some_iff`: a text can be cut exactly at the sizes of its beginnings.
- `find?_append`, `find?_eq_none_iff`, `rfind?_append`, `rfind?_eq_none_iff`: a search gives the size of what stands
  before the first, or the last, occurrence.
- `byteSize_eq`, `length_bytes`: sizes are those of strings and count the bytes of the encoding.
- `encode_cases`: an ASCII character is its own byte, and any other starts with a byte that is no ASCII character.
-/
namespace VisualNovel.Text

/-- the size of a text in bytes -/
def byteSize : List Char → Nat
  | [] => 0
  | c :: cs => c.utf8Size + byteSize cs

/-- the encoding of a text -/
def bytes (cs : List Char) : List UInt8 := cs.flatMap String.utf8EncodeChar

/-- the offset at which a character stands first -/
def find? (c : Char) : List Char → Option Nat
  | [] => none
  | d :: cs => if d = c then some 0 else (find? c cs).map (d.utf8Size + ·)

/-- the offset at which a character stands last -/
def rfind? (c : Char) : List Char → Option Nat
  | [] => none
  | d :: cs => ((rfind? c cs).map (d.utf8Size + ·)).or (if d = c then some 0 else none)

/-- the offset of the character after the first `count` ones, or of the end -/
def offsetOf : Nat → List Char → Nat
  | 0, _ => 0
  | _ + 1, [] => 0
  | count + 1, c :: cs => c.utf8Size + offsetOf count cs

/-- what stands before and after an offset -/
def cut? : Nat → List Char → Option (List Char × List Char)
  | 0, cs => some ([], cs)
  | _ + 1, [] => none
  | n + 1, c :: cs =>
    if n + 1 < c.utf8Size then none else (cut? (n + 1 - c.utf8Size) cs).map fun (front, back) => (c :: front, back)

/-- the text before an offset -/
def upTo? (stop : Nat) (cs : List Char) : Option (List Char) := (cut? stop cs).map Prod.fst

/-- the text from an offset on -/
def from? (start : Nat) (cs : List Char) : Option (List Char) := (cut? start cs).map Prod.snd

/-- the text between two offsets -/
def slice? (start stop : Nat) (cs : List Char) : Option (List Char) := (upTo? stop cs).bind (from? start)

theorem byteSize_eq (cs : List Char) : byteSize cs = (String.ofList cs).utf8ByteSize := by
  induction cs with
  | nil => rfl
  | cons c cs ih =>
    have hcons : String.ofList (c :: cs) = String.singleton c ++ String.ofList cs := by
      rw [String.singleton_eq_ofList, ← String.ofList_append, List.singleton_append]
    rw [byteSize, ih, hcons, String.utf8ByteSize_append, String.utf8ByteSize_singleton]

@[simp] theorem byteSize_nil : byteSize [] = 0 := rfl

@[simp] theorem byteSize_cons (c : Char) (cs : List Char) : byteSize (c :: cs) = c.utf8Size + byteSize cs := rfl

@[simp] theorem byteSize_append (cs ds : List Char) : byteSize (cs ++ ds) = byteSize cs + byteSize ds := by
  induction cs with
  | nil => simp
  | cons c cs ih => simp [ih, Nat.add_assoc]

theorem byteSize_eq_zero_iff {cs : List Char} : byteSize cs = 0 ↔ cs = [] := by
  cases cs with
  | nil => simp
  | cons c cs => have := c.utf8Size_pos; simp; omega

@[simp] theorem bytes_nil : bytes [] = [] := rfl

@[simp] theorem bytes_cons (c : Char) (cs : List Char) : bytes (c :: cs) = String.utf8EncodeChar c ++ bytes cs := rfl

theorem length_bytes (cs : List Char) : (bytes cs).length = byteSize cs := by
  induction cs with
  | nil => rfl
  | cons c cs ih => simp [ih]

/-- how a character starts -/
theorem encode_cases (c : Char) : (∃ b, String.utf8EncodeChar c = [b] ∧ b.toNat = c.toNat) ∨
    (128 ≤ c.toNat ∧ ∃ b bs, String.utf8EncodeChar c = b :: bs ∧ 128 ≤ b.toNat) := by
  unfold String.utf8EncodeChar
  extract_lets code
  have hcode : code = c.toNat := rfl
  split
  · refine .inl ⟨_, rfl, ?_⟩
    rw [hcode]
    exact UInt8.toNat_ofNat_of_lt' (Nat.lt_of_le_of_lt (by omega : c.toNat ≤ 127) (by decide))
  · -- two, three and four bytes: the first one carries the length in its upper bits
    refine .inr ⟨by omega, ?_⟩
    split
    · exact ⟨_, _, rfl, by simp; omega⟩
    · split
      · exact ⟨_, _, rfl, by simp; omega⟩
      · exact ⟨_, _, rfl, by simp; omega⟩

/-- a text starts with the byte of an ASCII character exactly if it starts with that character -/
theorem head?_bytes_eq_iff {a : Char} {byte : UInt8} (hbyte : byte.toNat = a.toNat) (ha : a.toNat < 128)
    {cs : List Char} : (bytes cs).head? = some byte ↔ cs.head? = some a := by
  cases cs with
  | nil => simp
  | cons c cs =>
    rcases encode_cases c with ⟨b, henc, hb⟩ | ⟨hc, b, bs, henc, hb⟩
    · rw [bytes_cons, henc, List.singleton_append, List.head?_cons, List.head?_cons, Option.some.injEq, Option.some.injEq,
        ← UInt8.toNat_inj, hb, hbyte, Char.toNat_inj]
    · have hne : b ≠ byte := by rintro rfl; omega
      have hca : c ≠ a := by rintro rfl; omega
      simp [henc, hne, hca]

theorem cut?_append (front back : List Char) : cut? (byteSize front) (front ++ back) = some (front, back) := by
  induction front with
  | nil => simp [cut?]
  | cons c front ih =>
    obtain ⟨n, hn⟩ := Nat.exists_eq_succ_of_ne_zero (mt byteSize_eq_zero_iff.1 (List.cons_ne_nil c front))
    have hrest : n + 1 - c.utf8Size = byteSize front := by simp at hn; omega
    have hfits : ¬ n + 1 < c.utf8Size := by simp at hn; omega
    rw [hn, List.cons_append, cut?, if_neg hfits, hrest, ih]
    rfl

/-- **Where a text can be cut.** -/
theorem cut?_eq_some_iff {n : Nat} {cs front back : List Char} :
    cut? n cs = some (front, back) ↔ cs = front ++ back ∧ n = byteSize front := by
  refine ⟨fun h => ?_, fun ⟨hcs, hn⟩ => hcs ▸ hn ▸ cut?_append front back⟩
  fun_induction cut? n cs generalizing front with
  | case1 cs => cases h; simp
  | case2 => cases h
  | case3 => cases h
  | case4 n c cs hfits ih =>
    obtain ⟨⟨front', back'⟩, hcut, hpair⟩ := Option.map_eq_some_iff.1 h
    cases hpair
    obtain ⟨rfl, hsize⟩ := ih hcut
    exact ⟨rfl, by simp; omega⟩

@[simp] theorem upTo?_append (front back : List Char) : upTo? (byteSize front) (front ++ back) = some front := by
  rw [upTo?, cut?_append, Option.map_some]

@[simp] theorem from?_append (front back : List Char) : from? (byteSize front) (front ++ back) = some back := by
  rw [from?, cut?_append, Option.map_some]

theorem slice?_append (front middle back : List Char) :
    slice? (byteSize front) (byteSize (front ++ middle)) (front ++ middle ++ back) = some middle := by
  rw [slice?, upTo?_append, Option.bind_some, from?_append]

theorem find?_append {c : Char} {front : List Char} (hfront : c ∉ front) (back : List Char) :
    find? c (front ++ c :: back) = some (byteSize front) := by
  induction front with
  | nil => simp [find?]
  | cons d front ih =>
    obtain ⟨hd, hfront⟩ := List.ne_and_not_mem_of_not_mem_cons hfront
    rw [List.cons_append, find?, if_neg (Ne.symm hd), ih hfront, Option.map_some, byteSize_cons]

theorem find?_eq_none_iff {c : Char} {cs : List Char} : find? c cs = none ↔ c ∉ cs := by
  induction cs with
  | nil => simp [find?]
  | cons d cs ih =>
    by_cases hd : d = c
    · simp [find?, hd]
    · simp [find?, hd, ih, Ne.symm hd]

theorem rfind?_eq_none_iff {c : Char} {cs : List Char} : rfind? c cs = none ↔ c ∉ cs := by
  induction cs with
  | nil => simp [rfind?]
  | cons d cs ih =>
    by_cases hd : d = c
    · simp [rfind?, hd]
    · simp [rfind?, hd, ih, Ne.symm hd]

theorem rfind?_append {c : Char} {back : List Char} (hback : c ∉ back) (front : List Char) :
    rfind? c (front ++ c :: back) = some (byteSize front) := by
  induction front with
  | nil => simp [rfind?, rfind?_eq_none_iff.2 hback]
  | cons d front ih => simp [rfind?, ih]

/-- a character that is not in the rest of a text stands last within its beginning -/
theorem rfind?_lt {c : Char} {front back : List Char} (hback : c ∉ back) {n : Nat}
    (h : rfind? c (front ++ back) = some n) : n < byteSize front := by
  induction front generalizing n with
  | nil => simp [rfind?_eq_none_iff.2 hback] at h
  | cons d front ih =>
    have := d.utf8Size_pos
    simp only [List.cons_append, rfind?, Option.or_eq_some_iff, Option.map_eq_some_iff] at h
    rcases h with ⟨m, hm, rfl⟩ | ⟨-, h⟩
    · have := ih hm
      simp; omega
    · split at h
      · cases h; simp; omega
      · cases h

theorem offsetOf_eq (count : Nat) (cs : List Char) : offsetOf count cs = byteSize (cs.take count) := by
  fun_induction offsetOf count cs with
  | case1 => rfl
  | case2 => rfl
  | case3 count c cs ih => simp [ih]

end VisualNovel.Text
