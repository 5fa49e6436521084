/-
The language of tokens, apart from the code that reads them.

`Token.Position` is what may stand behind a dollar sign: blanks, a sign or none, a run of decimal digits of any length and
any text that does not go on with a digit. `Token.Refers` is a token that gives a position, `Token.Finds` one whose
position is a size and lies in the pool, and `Token.Shown` the text that a token stands for.

- `ofDigits_eq_number`: reading digits one after another gives the number that they write.
- `sign?_append`, `digitsEnd_append`: the bytes show where the sign and the digits end, and a character starts there.
- `index?_parts`, `index?_eq_some_iff`: so every text behind a dollar sign is cut without fault, and the reader finds a
  position exactly where one stands, if its number is a size.
- `token_language`: a token is pooled, plain or unresolved exactly as the language says, and the texts of an instruction
  are what its tokens stand for, one by one.
-/
import Mathlib.Tactic
import Mathlib.Data.Nat.Digits.Defs
import VisualNovel.TextPool

namespace VisualNovel

/-! ## Numbers -/

/-- the number that a run of decimal digits writes, the last digit counting ones -/
def number (ds : List Char) : Nat := Nat.ofDigits 10 (ds.reverse.map fun d => d.toNat - '0'.toNat)

theorem ofDigits_eq_number (ds : List Char) : Text.ofDigits ds = number ds := by
  -- from the right: the reader has come to the last digit, which counts ones
  induction ds using List.reverseRecOn with
  | nil => rfl
  | append_singleton ds d ih =>
    have hread : Text.ofDigits (ds ++ [d]) = 10 * Text.ofDigits ds + (d.toNat - '0'.toNat) := by
      simp only [Text.ofDigits, Nat.ofDigitChars_append, Nat.ofDigitChars_cons, Nat.ofDigitChars_nil]
    have hwrite : number (ds ++ [d]) = (d.toNat - '0'.toNat) + 10 * number ds := by
      simp [number, Nat.ofDigits_cons]
    rw [hread, hwrite, ih, Nat.add_comm]

theorem readSize_eq_some_iff {ds : List Char} {n : Nat} :
    Text.readSize ds = some n ↔ ds ≠ [] ∧ (∀ d ∈ ds, d.isDigit = true) ∧ number ds = n ∧ n ≤ Text.sizeMax := by
  simp only [Text.readSize, Option.ite_none_right_eq_some, Bool.and_eq_true, Bool.not_eq_true', decide_eq_true_eq,
    List.isEmpty_eq_false_iff, List.all_eq_true, Option.some.injEq, ofDigits_eq_number]
  constructor
  · rintro ⟨⟨⟨hne, hdigits⟩, hmax⟩, rfl⟩
    exact ⟨hne, hdigits, rfl, hmax⟩
  · rintro ⟨hne, hdigits, rfl, hmax⟩
    exact ⟨⟨⟨hne, hdigits⟩, hmax⟩, rfl⟩

theorem isDigit_iff {c : Char} : c.isDigit = true ↔ 48 ≤ c.toNat ∧ c.toNat ≤ 57 := by
  simp [Char.isDigit, UInt32.le_iff_toNat_le]

theorem isBlank_digit {c : Char} (hc : c.isDigit = true) : Text.isBlank c = false := by
  have hrange := isDigit_iff.1 hc
  simp only [Text.isBlank, Bool.or_eq_false_iff, Bool.and_eq_false_iff, decide_eq_false_iff_not, beq_eq_false_iff_ne]
  omega

namespace Token

/-! ## The language -/

/-- blanks, a sign or none, the longest run of digits and any text; a minus sign goes with zero only -/
inductive Position : List Char → Nat → Prop where
  | mk {blanks sign digits rest : List Char} (hblanks : ∀ c ∈ blanks, Text.isBlank c = true)
    (hsign : sign = [] ∨ sign = ['+'] ∨ sign = ['-']) (hsome : digits ≠ []) (hdigits : ∀ d ∈ digits, d.isDigit = true)
    (hlongest : ∀ c, rest.head? = some c → c.isDigit = false) (hzero : sign = ['-'] → number digits = 0) :
    Position (blanks ++ (sign ++ (digits ++ rest))) (number digits)

/-- a dollar sign and a position -/
def Refers (token : String) (i : Nat) : Prop := ∃ cs, token.toList = '$' :: cs ∧ Position cs i

/-- a token that refers to a text of the pool; positions are sizes -/
def Finds (pool : List String) (token : String) (i : Nat) : Prop :=
  Refers token i ∧ i ≤ Text.sizeMax ∧ i < pool.length

/-- a token that is no reference: no dollar sign in front, or nothing behind it -/
def Plain (token : String) : Prop := token.toList.head? ≠ some '$' ∨ token = "$"

/-- what comes of a token -/
inductive Reads (pool : List String) (token : String) : Token → Prop where
  | plain (hplain : Plain token) : Reads pool token (.plain token)
  | pooled {i : Nat} {text : String} (hfinds : Finds pool token i) (htext : pool[i]? = some text) :
    Reads pool token (.pooled i text)
  /-- every other token, one with a number beyond the sizes among them -/
  | unresolved (hplain : ¬ Plain token) (hnone : ∀ i, ¬ Finds pool token i) : Reads pool token (.unresolved token)

/-- the text of a token: the one that it finds, as that is, or else itself -/
inductive Shown (pool : List String) (token : String) : String → Prop where
  | found {i : Nat} {text : String} (hfinds : Finds pool token i) (htext : pool[i]? = some text) :
    Shown pool token text
  | itself (hnone : ∀ i, ¬ Finds pool token i) : Shown pool token token

/-! ## Cutting a token -/

/-- the four parts of what stands behind a dollar sign -/
structure Parts (cs blanks sign digits rest : List Char) : Prop where
  split : cs = blanks ++ (sign ++ (digits ++ rest))
  blank : ∀ c ∈ blanks, Text.isBlank c = true
  reached : ∀ c, (sign ++ (digits ++ rest)).head? = some c → Text.isBlank c = false
  sign : sign = ['+'] ∨ sign = ['-'] ∨
    sign = [] ∧ (digits ++ rest).head? ≠ some '+' ∧ (digits ++ rest).head? ≠ some '-'
  digit : ∀ d ∈ digits, d.isDigit = true
  longest : ∀ c, rest.head? = some c → c.isDigit = false

theorem sign_total (cs : List Char) : ∃ sign rest, cs = sign ++ rest ∧
    (sign = ['+'] ∨ sign = ['-'] ∨ sign = [] ∧ rest.head? ≠ some '+' ∧ rest.head? ≠ some '-') := by
  by_cases hplus : cs.head? = some '+'
  · obtain ⟨rest, rfl⟩ := List.head?_eq_some_iff.1 hplus
    exact ⟨['+'], rest, rfl, .inl rfl⟩
  by_cases hminus : cs.head? = some '-'
  · obtain ⟨rest, rfl⟩ := List.head?_eq_some_iff.1 hminus
    exact ⟨['-'], rest, rfl, .inr (.inl rfl)⟩
  · exact ⟨[], cs, rfl, .inr (.inr ⟨rfl, hplus, hminus⟩)⟩

theorem Parts.total (cs : List Char) : ∃ blanks sign digits rest, Parts cs blanks sign digits rest := by
  obtain ⟨sign, back, hsign, hcases⟩ := sign_total (cs.dropWhile Text.isBlank)
  have hback : back.takeWhile Char.isDigit ++ back.dropWhile Char.isDigit = back := List.takeWhile_append_dropWhile
  refine ⟨cs.takeWhile Text.isBlank, sign, back.takeWhile Char.isDigit, back.dropWhile Char.isDigit, ?_, ?_, ?_, ?_,
    ?_, ?_⟩
  · rw [hback, ← hsign, List.takeWhile_append_dropWhile]
  · exact List.all_eq_true.1 (List.all_takeWhile)
  · intro c hc
    rw [hback, ← hsign] at hc
    have := List.head?_dropWhile_not Text.isBlank cs
    simpa [hc] using this
  · rwa [hback]
  · exact List.all_eq_true.1 (List.all_takeWhile)
  · intro c hc
    have := List.head?_dropWhile_not Char.isDigit back
    simpa [hc] using this

/-- where there are digits, no more than the language asks for decides the parts -/
theorem Parts.ofDigits {blanks sign digits rest : List Char} (hblanks : ∀ c ∈ blanks, Text.isBlank c = true)
    (hsign : sign = [] ∨ sign = ['+'] ∨ sign = ['-']) (hsome : digits ≠ []) (hdigits : ∀ d ∈ digits, d.isDigit = true)
    (hlongest : ∀ c, rest.head? = some c → c.isDigit = false) :
    Parts (blanks ++ (sign ++ (digits ++ rest))) blanks sign digits rest := by
  obtain ⟨d, ds, rfl⟩ := List.exists_cons_of_ne_nil hsome
  have hd := hdigits d List.mem_cons_self
  have hplus : d ≠ '+' := by rintro rfl; exact absurd hd (by decide)
  have hminus : d ≠ '-' := by rintro rfl; exact absurd hd (by decide)
  rcases hsign with rfl | rfl | rfl
  · exact ⟨rfl, hblanks, by simpa using isBlank_digit hd, by simp [hplus, hminus], hdigits, hlongest⟩
  · exact ⟨rfl, hblanks, by simp; decide, by simp, hdigits, hlongest⟩
  · exact ⟨rfl, hblanks, by simp; decide, by simp, hdigits, hlongest⟩

theorem trimStart_append {blanks cs : List Char} (hblanks : ∀ c ∈ blanks, Text.isBlank c = true)
    (hreached : ∀ c, cs.head? = some c → Text.isBlank c = false) : Text.trimStart (blanks ++ cs) = cs := by
  rw [Text.trimStart, List.dropWhile_append_of_pos hblanks]
  cases cs with
  | nil => rfl
  | cons c cs => simp [hreached c rfl]

/-- the first byte shows the sign, and a sign is one byte long -/
theorem sign?_append {sign back : List Char} (hsign : sign = ['+'] ∨ sign = ['-'] ∨
      sign = [] ∧ back.head? ≠ some '+' ∧ back.head? ≠ some '-') :
    sign? (sign ++ back) = some (decide (sign = ['-']), back) := by
  have hplus : (Text.bytes (sign ++ back)).head? = some 0x2b ↔ (sign ++ back).head? = some '+' :=
    Text.head?_bytes_eq_iff rfl (by decide)
  have hminus : (Text.bytes (sign ++ back)).head? = some 0x2d ↔ (sign ++ back).head? = some '-' :=
    Text.head?_bytes_eq_iff rfl (by decide)
  have hone : ∀ c : Char, c.utf8Size = 1 → Text.from? 1 (c :: back) = some back := by
    intro c hc
    have := Text.from?_append [c] back
    rwa [Text.byteSize_cons, hc, Text.byteSize_nil] at this
  unfold sign?
  rcases hsign with rfl | rfl | ⟨rfl, hfirst, hsecond⟩
  · rw [if_pos (hplus.2 rfl)]
    simp [hone '+' rfl]
  · rw [if_neg (mt hplus.1 (by simp)), if_pos (hminus.2 rfl)]
    simp [hone '-' rfl]
  · rw [if_neg (mt hplus.1 hfirst), if_neg (mt hminus.1 hsecond)]
    rfl

theorem isDigitByte_iff {b : UInt8} : isDigitByte b = true ↔ 48 ≤ b.toNat ∧ b.toNat ≤ 57 := by
  simp [isDigitByte, UInt8.le_iff_toNat_le]

theorem encode_digit {d : Char} (hd : d.isDigit = true) :
    ∃ b, String.utf8EncodeChar d = [b] ∧ isDigitByte b = true := by
  have hrange := isDigit_iff.1 hd
  rcases Text.encode_cases d with ⟨b, henc, hb⟩ | ⟨hlarge, -⟩
  · exact ⟨b, henc, isDigitByte_iff.2 (hb ▸ hrange)⟩
  · omega

theorem encode_other {c : Char} (hc : c.isDigit = false) :
    ∃ b bs, String.utf8EncodeChar c = b :: bs ∧ isDigitByte b = false := by
  have hrange := mt isDigit_iff.2 (Bool.eq_false_iff.1 hc)
  rcases Text.encode_cases c with ⟨b, henc, hb⟩ | ⟨-, b, bs, henc, hb⟩
  · exact ⟨b, [], henc, Bool.eq_false_iff.2 (mt isDigitByte_iff.1 (hb ▸ hrange))⟩
  · refine ⟨b, bs, henc, Bool.eq_false_iff.2 (mt isDigitByte_iff.1 ?_)⟩
    omega

/-- the run of bytes that are digits ends with the run of characters that are -/
theorem digitsEnd_append {digits rest : List Char} (hdigits : ∀ d ∈ digits, d.isDigit = true)
    (hlongest : ∀ c, rest.head? = some c → c.isDigit = false) : digitsEnd (digits ++ rest) = Text.byteSize digits := by
  induction digits with
  | nil =>
    cases rest with
    | nil => rfl
    | cons c rest =>
      obtain ⟨b, bs, henc, hb⟩ := encode_other (hlongest c rfl)
      simp [digitsEnd, henc, List.findIdx_cons, hb]
  | cons d digits ih =>
    obtain ⟨hd, hdigits⟩ := List.forall_mem_cons.1 hdigits
    obtain ⟨b, henc, hb⟩ := encode_digit hd
    have hsize : d.utf8Size = 1 := by rw [← String.length_utf8EncodeChar, henc, List.length_singleton]
    have hrest := ih hdigits
    simp only [digitsEnd] at hrest
    simp [digitsEnd, henc, List.findIdx_cons, hb, hrest, hsize, Nat.add_comm]

/-- **What stands behind a dollar sign is cut into its parts without fault**, and the digits are read. -/
theorem index?_parts {cs blanks sign digits rest : List Char} (hparts : Parts cs blanks sign digits rest) :
    index? cs = some ((Text.readSize digits).filter fun n => decide (sign = ['-'] → n = 0)) := by
  have htrim := trimStart_append hparts.blank hparts.reached
  simp only [index?, hparts.split, htrim, sign?_append hparts.sign, digitsEnd_append hparts.digit hparts.longest,
    Option.bind_eq_bind, Option.bind_some, Text.upTo?_append]
  cases Text.readSize digits with
  | none => rfl
  | some n => by_cases hminus : sign = ['-'] <;> by_cases hn : n = 0 <;> simp [Option.filter_some, hminus, hn]

/-- **A position is read exactly where one stands**, if its number is a size. -/
theorem index?_eq_some_iff {cs : List Char} {i : Nat} :
    index? cs = some (some i) ↔ Position cs i ∧ i ≤ Text.sizeMax := by
  constructor
  · intro h
    obtain ⟨blanks, sign, digits, rest, hparts⟩ := Parts.total cs
    rw [index?_parts hparts, Option.some.injEq, Option.filter_eq_some_iff] at h
    obtain ⟨hread, hzero⟩ := h
    obtain ⟨hsome, hdigits, rfl, hmax⟩ := readSize_eq_some_iff.1 hread
    have hsign : sign = [] ∨ sign = ['+'] ∨ sign = ['-'] := by
      rcases hparts.sign with h | h | ⟨h, -⟩ <;> simp [h]
    rw [hparts.split]
    exact ⟨.mk hparts.blank hsign hsome hdigits hparts.longest (of_decide_eq_true hzero), hmax⟩
  · rintro ⟨⟨hblanks, hsign, hsome, hdigits, hlongest, hzero⟩, hmax⟩
    rename_i blanks sign digits rest
    have hread : Text.readSize digits = some (number digits) := readSize_eq_some_iff.2 ⟨hsome, hdigits, rfl, hmax⟩
    rw [index?_parts (.ofDigits hblanks hsign hsome hdigits hlongest), hread]
    exact congrArg some (Option.filter_eq_some_iff.2 ⟨rfl, decide_eq_true hzero⟩)

/-- a position beyond the sizes is none -/
theorem index?_large {cs : List Char} {i : Nat} (hposition : Position cs i) (hlarge : Text.sizeMax < i) :
    index? cs = some none := by
  cases hposition with
  | @mk blanks sign digits rest hblanks hsign hsome hdigits hlongest hzero =>
    have hread : Text.readSize digits = none := by
      rw [Option.eq_none_iff_forall_ne_some]
      intro n hn
      obtain ⟨-, -, rfl, hmax⟩ := readSize_eq_some_iff.1 hn
      omega
    rw [index?_parts (.ofDigits hblanks hsign hsome hdigits hlongest), hread]
    rfl

theorem index?_total (cs : List Char) : ∃ position, index? cs = some position := by
  obtain ⟨blanks, sign, digits, rest, hparts⟩ := Parts.total cs
  exact ⟨_, index?_parts hparts⟩

/-! ## Reading a token -/

theorem Position.ne_nil {cs : List Char} {i : Nat} (h : Position cs i) : cs ≠ [] := by
  cases h with
  | mk _ _ hsome => simp [hsome]

theorem not_plain_iff {token : String} : ¬ Plain token ↔ ∃ c cs, token.toList = '$' :: c :: cs := by
  have halone : token = "$" ↔ token.toList = ['$'] := String.toList_inj.symm
  rw [Plain, halone, not_or, not_not, List.head?_eq_some_iff]
  constructor
  · rintro ⟨⟨cs, hcs⟩, hne⟩
    cases cs with
    | nil => exact absurd hcs hne
    | cons c cs => exact ⟨c, cs, hcs⟩
  · rintro ⟨c, cs, hcs⟩
    exact ⟨⟨_, hcs⟩, by simp [hcs]⟩

theorem Refers.not_plain {token : String} {i : Nat} (h : Refers token i) : ¬ Plain token := by
  obtain ⟨cs, hcs, hposition⟩ := h
  obtain ⟨c, cs, rfl⟩ := List.exists_cons_of_ne_nil hposition.ne_nil
  exact not_plain_iff.2 ⟨c, cs, hcs⟩

theorem read?_plain (pool : List String) {token : String} (hplain : Plain token) :
    read? pool token = some (.plain token) := by
  unfold read?
  split
  · rename_i c cs hcs
    exact absurd hplain (not_plain_iff.2 ⟨c, cs, hcs⟩)
  · rfl

/-- behind a dollar sign it is the position that decides -/
theorem read?_dollar (pool : List String) {token : String} {cs : List Char} {position : Option Nat}
    (htoken : token.toList = '$' :: cs) (hsome : cs ≠ []) (hindex : index? cs = some position) :
    read? pool token = some ((position.bind fun i => (pool[i]?).map (Token.pooled i)).getD (.unresolved token)) := by
  obtain ⟨c, cs, rfl⟩ := List.exists_cons_of_ne_nil hsome
  simp only [read?, htoken, hindex, Option.bind_eq_bind, Option.bind_some]
  cases position with
  | none => rfl
  | some i => cases hi : pool[i]? <;> simp [hi]

/-- **The reader follows the language.** -/
theorem read?_reads {pool : List String} {token : String} {answer : Token} (h : Reads pool token answer) :
    read? pool token = some answer := by
  cases h with
  | plain hplain => exact read?_plain pool hplain
  | @pooled i text hfinds htext =>
    obtain ⟨⟨cs, hcs, hposition⟩, hmax, -⟩ := hfinds
    rw [read?_dollar pool hcs hposition.ne_nil (index?_eq_some_iff.2 ⟨hposition, hmax⟩)]
    simp [htext]
  | unresolved hplain hnone =>
    obtain ⟨c, cs, hcs⟩ := not_plain_iff.1 hplain
    obtain ⟨position, hindex⟩ := index?_total (c :: cs)
    rw [read?_dollar pool hcs (List.cons_ne_nil c cs) hindex]
    cases position with
    | none => rfl
    | some i =>
      -- a position was read, so it lies beyond the pool
      obtain ⟨hposition, hmax⟩ := index?_eq_some_iff.1 hindex
      have hlarge : ¬ i < pool.length := fun hi => hnone i ⟨⟨_, hcs, hposition⟩, hmax, hi⟩
      simp [List.getElem?_eq_none (Nat.le_of_not_lt hlarge)]

/-- **The language has an answer for every token.** -/
theorem Reads.total (pool : List String) (token : String) : ∃ answer, Reads pool token answer := by
  by_cases hplain : Plain token
  · exact ⟨_, .plain hplain⟩
  by_cases hfinds : ∃ i, Finds pool token i
  · obtain ⟨i, hi⟩ := hfinds
    exact ⟨_, .pooled hi (List.getElem?_eq_getElem hi.2.2)⟩
  · exact ⟨_, .unresolved hplain (not_exists.1 hfinds)⟩

theorem read_reads {pool : List String} {token : String} {answer : Token} (h : Reads pool token answer) :
    read pool token = answer := by
  rw [read, read?_reads h, Option.getD_some]

theorem reads_read (pool : List String) (token : String) : Reads pool token (read pool token) := by
  obtain ⟨answer, h⟩ := Reads.total pool token
  rwa [read_reads h]

theorem shown_of_reads {pool : List String} {token : String} {answer : Token} (h : Reads pool token answer) :
    Shown pool token answer.text := by
  cases h with
  | plain hplain => exact .itself fun i hi => hi.1.not_plain hplain
  | pooled hfinds htext => exact .found hfinds htext
  | unresolved _ hnone => exact .itself hnone

theorem text_of_shown {pool : List String} {token shown : String} (h : Shown pool token shown) :
    (read pool token).text = shown := by
  cases h with
  | found hfinds htext => rw [read_reads (.pooled hfinds htext), text]
  | itself hnone =>
    by_cases hplain : Plain token
    · rw [read_reads (.plain hplain), text]
    · rw [read_reads (.unresolved hplain hnone), text]

/-- a number beyond the sizes refers to nothing -/
theorem read_large (pool : List String) {token : String} {i : Nat} (hrefers : Refers token i)
    (hlarge : Text.sizeMax < i) : read pool token = .unresolved token := by
  obtain ⟨cs, hcs, hposition⟩ := hrefers
  rw [read, read?_dollar pool hcs hposition.ne_nil (index?_large hposition hlarge)]
  rfl

theorem texts_shown (pool : List String) (instruction : Instruction) :
    List.Forall₂ (Shown pool) instruction.tokens (instruction.texts pool) := by
  rw [Instruction.texts, List.forall₂_map_right_iff, List.forall₂_same]
  exact fun token _ => shown_of_reads (reads_read pool token)

/-- **The reader accepts the language of tokens, and nothing else.** Of any token and pool it makes what the language says,
without fault: a pool text where a position of the pool stands behind the dollar sign, the token itself otherwise. A number
beyond the sizes refers to nothing, and for a pool no longer than a size can say the bound changes nothing. The texts of
an instruction are those of its tokens, one by one. -/
theorem token_language (pool : List String) :
    (∀ token, read? pool token = some (read pool token) ∧
      (∀ answer, Reads pool token answer ↔ answer = read pool token) ∧
      ∀ shown, Shown pool token shown ↔ shown = (read pool token).text) ∧
    (∀ token i, Refers token i → Text.sizeMax < i → read pool token = .unresolved token) ∧
    (pool.length ≤ Text.sizeMax → ∀ token i text,
      read pool token = .pooled i text ↔ Refers token i ∧ pool[i]? = some text) ∧
    ∀ instruction : Instruction, List.Forall₂ (Shown pool) instruction.tokens (instruction.texts pool) := by
  refine ⟨fun token => ⟨read?_reads (reads_read pool token), fun answer => ⟨fun h => (read_reads h).symm, ?_⟩,
    fun shown => ⟨fun h => (text_of_shown h).symm, ?_⟩⟩, fun token i => read_large pool, fun hpool token i text => ?_,
    texts_shown pool⟩
  · rintro rfl
    exact reads_read pool token
  · rintro rfl
    exact shown_of_reads (reads_read pool token)
  · constructor
    · intro h
      have hreads := reads_read pool token
      rw [h] at hreads
      cases hreads with
      | pooled hfinds htext => exact ⟨hfinds.1, htext⟩
    · rintro ⟨hrefers, htext⟩
      obtain ⟨hi, -⟩ := List.getElem?_eq_some_iff.1 htext
      exact read_reads (.pooled ⟨hrefers, by omega, hi⟩ htext)

/-- a position with a sign, a zero in front and text behind it, and a number that is too large -/
theorem token_language_ann :
    let pool := ["Ann", "Bob"]
    read pool "$ +01st" = .pooled 1 "Bob" ∧
      read pool "$99999999999999999999" = .unresolved "$99999999999999999999" := by
  intro pool
  obtain ⟨-, hlarge, hpooled, -⟩ := token_language pool
  have hletter : ∀ c, ['s', 't'].head? = some c → c.isDigit = false := by
    rintro _ ⟨⟩
    rfl
  have hfirst : Refers "$ +01st" 1 :=
    ⟨_, rfl, @Position.mk [' '] ['+'] ['0', '1'] ['s', 't'] (List.all_eq_true.1 rfl) (by decide) (by decide)
      (List.all_eq_true.1 rfl) hletter (by decide)⟩
  have hsecond : Refers "$99999999999999999999" 99999999999999999999 :=
    ⟨_, rfl, @Position.mk [] [] (List.replicate 20 '9') [] (List.all_eq_true.1 rfl) (by decide) (by decide)
      (List.all_eq_true.1 rfl) nofun (by decide)⟩
  exact ⟨(hpooled (by decide) _ _ _).2 ⟨hfirst, rfl⟩, hlarge _ _ hsecond (by decide)⟩

end Token

end VisualNovel
