/-
Written JSON is read back.

The printer leaves gaps by a layout, escapes what a string may not hold and writes a number in the shortest form; the
reader takes any gaps, any escapes and any numeral. Between them stand the layout (`Layout.Airy`: it leaves only what
may surround values), the places where a numeral cannot go on (`EndsNumeral`: no value is written right behind a
numeral) and the fuel.

- `literal_written`: a string literal is read as it was written, whatever characters it holds; a name that is no text is
  written as a lone surrogate and comes back as that (`literal_writtenName`).
- `numeral_digits`: written digits are one numeral, and it ends where they end.
- `ReadsBack`: on enough fuel values, elements and members are all read back, by induction on the fuel (`readsBack`).
  Two units for each character written are enough, and `fuelFor` gives that (`read_render`).
- `decode_render`: a document decodes from its text, in any layout, to what its value decodes to; one that is written
  with a line per member does so from its bytes (`decode_pretty`).
-/
import Mathlib.Data.List.Basic
import Mathlib.Tactic.IntervalCases
import Mathlib.Tactic.SplitIfs
import VisualNovel.Json.Decode
import VisualNovel.Json.Printer

namespace VisualNovel.Json

open Text

/-! ## Gaps -/

/-- a layout that leaves only what may surround values -/
structure Layout.Airy (lay : Layout) : Prop where
  line : ∀ depth, ∀ c ∈ lay.line depth, isGap (some c)
  afterColon : ∀ c ∈ lay.afterColon, isGap (some c)

theorem Layout.airy_pretty : pretty.Airy where
  line := by
    intro depth c hc
    rcases List.mem_cons.1 hc with rfl | hc
    · rfl
    · obtain ⟨-, rfl⟩ := List.mem_replicate.1 hc
      rfl
  afterColon := by
    intro c hc
    cases List.mem_singleton.1 hc
    rfl

theorem Layout.airy_compact : compact.Airy where
  line _ := List.forall_mem_nil _
  afterColon := List.forall_mem_nil _

theorem skipGap_gaps {cs : List Char} (hcs : ∀ c ∈ cs, isGap (some c)) (s : List Symbol) :
    skipGap (cs.map some ++ s) = skipGap s := by
  have hgaps : ∀ x ∈ cs.map some, isGap x := by
    intro x hx
    obtain ⟨c, hc, rfl⟩ := List.mem_map.1 hx
    exact hcs c hc
  unfold skipGap
  exact List.dropWhile_append_of_pos hgaps

theorem skipGap_solid {c : Char} (hc : isGap (some c) = false) (s : List Symbol) :
    skipGap (some c :: s) = some c :: s := by
  simp only [skipGap, List.dropWhile_cons, hc, Bool.false_eq_true, if_false]

/-! ## Numerals -/

/-- a numeral cannot go on here -/
def EndsNumeral (s : List Symbol) : Prop :=
  ∀ c r, s = some c :: r → c.isDigit = false ∧ c ≠ '.' ∧ c ≠ 'e' ∧ c ≠ 'E'

theorem endsNumeral_nil : EndsNumeral [] := by
  rintro c r ⟨⟩

theorem endsNumeral_cons {c : Char} (hc : c = ',' ∨ c = ']' ∨ c = '\x7d' ∨ isGap (some c)) (s : List Symbol) :
    EndsNumeral (some c :: s) := by
  rintro c r ⟨⟩
  simp only [isGap, Bool.or_eq_true, beq_iff_eq] at hc
  rcases hc with rfl | rfl | rfl | ((rfl | rfl) | rfl) | rfl <;> decide

/-- gaps in front of what ends a numeral -/
theorem EndsNumeral.after_gaps {cs : List Char} (hcs : ∀ c ∈ cs, isGap (some c)) {s : List Symbol}
    (hs : EndsNumeral s) : EndsNumeral (cs.map some ++ s) := by
  cases cs with
  | nil => exact hs
  | cons c cs => exact endsNumeral_cons (.inr (.inr (.inr (hcs c List.mem_cons_self)))) _

theorem digitRun_digits {ds : List Char} (hds : ∀ c ∈ ds, c.isDigit = true) {s : List Symbol} (hs : EndsNumeral s) :
    digitRun (ds.map some ++ s) = (ds, s) := by
  induction ds with
  | nil =>
    cases s with
    | nil => rfl
    | cons x s =>
      cases x with
      | none => rfl
      | some c =>
        have hc := (hs c s rfl).1
        simp only [List.map_nil, List.nil_append, digitRun, hc, Bool.false_eq_true, if_false]
  | cons d ds ih =>
    obtain ⟨hd, hds⟩ := List.forall_mem_cons.1 hds
    simp only [List.map_cons, List.cons_append, digitRun, hd, if_true, ih hds]

/-- no digits but those of zero start with a zero -/
theorem head_digits_ne_zero {n : Nat} (hn : 0 < n) : (digits n).head? ≠ some '0' := by
  induction n using Nat.strong_induction_on with
  | h n ih =>
    unfold digits at ih ⊢
    rw [Nat.toDigits_eq_if (by decide)]
    split
    · rename_i hsmall
      interval_cases n <;> decide
    · rename_i hlarge
      have hfront := ih (n / 10) (by omega) (by omega)
      rw [List.head?_append_of_ne_nil _ Nat.toDigits_ne_nil]
      exact hfront

theorem wholeDigits_digits (n : Nat) {s : List Symbol} (hs : EndsNumeral s) :
    wholeDigits ((digits n).map some ++ s) = .ok (digits n, s) := by
  have hdigits : ∀ c ∈ digits n, c.isDigit = true := fun c hc => isDigit_of_mem_digits hc
  have hrun := digitRun_digits hdigits hs
  rcases Nat.eq_zero_or_pos n with rfl | hn
  · unfold wholeDigits
    rw [hrun]
    rfl
  · have hhead := head_digits_ne_zero hn
    unfold wholeDigits
    rw [hrun]
    cases hds : digits n with
    | nil => exact absurd hds (digits_ne_nil n)
    | cons d ds =>
      rw [hds, List.head?_cons, ne_eq, Option.some.injEq] at hhead
      split
      · cases ‹_›
      · cases ‹_›
      · cases ‹_›
        exact absurd rfl hhead
      · cases ‹_›
        rfl

theorem fractionDigits_none {s : List Symbol} (hs : EndsNumeral s) : fractionDigits s = .ok (none, s) := by
  unfold fractionDigits
  split
  · exact absurd rfl (hs _ _ rfl).2.1
  · rfl

theorem exponent_none {s : List Symbol} (hs : EndsNumeral s) : exponent s = .ok (none, s) := by
  unfold exponent
  split
  · obtain ⟨-, -, he, hE⟩ := hs _ _ rfl
    rw [if_neg (by simp [he, hE])]
  · rfl

theorem numeral_digits (negative : Bool) (n : Nat) {s : List Symbol} (hs : EndsNumeral s) :
    numeral negative ((digits n).map some ++ s) = .ok (numeralValue negative (digits n) none none, s) := by
  simp only [numeral, wholeDigits_digits n hs, fractionDigits_none hs, exponent_none hs]

/-! ## Strings -/

theorem hexUnit_control {n : Nat} (hn : n < 0x20) :
    hexUnit (some '0') (some '0') (some (hexDigit (n / 16))) (some (hexDigit (n % 16))) = some n := by
  interval_cases n <;> rfl

theorem Spelled.unit_control {t : Spelled} (ht : t.lead = none) {n : Nat} (hn : n < 0x20) :
    t.unit n = t.char (Char.ofNat n) := by
  have hlead : isLead n = false := by
    unfold isLead
    exact decide_eq_false (by omega)
  have htrail : isTrail n = false := by
    unfold isTrail
    exact decide_eq_false (by omega)
  simp only [unit, ht, hlead, htrail, Bool.false_eq_true, if_false]

theorem literal_plain (t : Spelled) {c : Char} (hquote : c ≠ '"') (hback : c ≠ '\\') (hcontrol : ¬ c.toNat < 0x20)
    (s : List Symbol) : literal t (some c :: s) = literal (t.char c) s := by
  rw [literal]
  · rw [if_neg hback, if_neg hcontrol]
  · exact hquote
  · exact fun _ _ _ _ _ _ hc => hback hc
  · exact fun _ _ _ hc => hback hc
  · exact fun _ _ hc => hback hc

/-- a character is read as it was written -/
theorem literal_writtenChar {t : Spelled} (ht : t.lead = none) (c : Char) (s : List Symbol) :
    literal t ((writtenChar c).map some ++ s) = literal (t.char c) s := by
  unfold writtenChar
  split_ifs with hquote hback hb hf hn hr htab hcontrol
  case pos => subst hquote; rfl
  case pos => subst hback; rfl
  case pos => subst hb; rfl
  case pos => subst hf; rfl
  case pos => subst hn; rfl
  case pos => subst hr; rfl
  case pos => subst htab; rfl
  case pos =>
    have hunit : literal (t.unit c.toNat) s = literal (t.char c) s := by
      rw [t.unit_control ht hcontrol, Char.ofNat_toNat]
    simp only [List.map_cons, List.map_nil, List.cons_append, List.nil_append, literal, hexUnit_control hcontrol]
    exact hunit
  case neg => exact literal_plain t hquote hback hcontrol s

theorem literal_written {t : Spelled} (ht : t.lead = none) (cs : List Char) (s : List Symbol) :
    literal t ((cs.flatMap writtenChar).map some ++ some '"' :: s) =
      .ok (Spelled.text ⟨cs.reverse ++ t.chars, none, t.sound⟩, s) := by
  induction cs generalizing t with
  | nil =>
    obtain ⟨chars, lead, sound⟩ := t
    cases ht
    rfl
  | cons c cs ih =>
    have hrest := ih (t := t.char c) rfl
    have hsound : (t.char c).sound = t.sound := by simp only [Spelled.char, ht, Option.isNone_none, Bool.and_true]
    simp only [List.flatMap_cons, List.map_append, List.append_assoc, literal_writtenChar ht, hrest, hsound]
    simp only [Spelled.char, List.reverse_cons, List.append_assoc, List.singleton_append]

/-- a name is read as it was written, a lone surrogate included -/
theorem literal_writtenName (name : Option String) (s : List Symbol) :
    ∃ cs, writtenName name = '"' :: cs ∧ literal .start (cs.map some ++ s) = .ok (name, s) := by
  cases name with
  | none => exact ⟨_, rfl, rfl⟩
  | some text =>
    refine ⟨_, rfl, ?_⟩
    have hread := literal_written (t := .start) rfl text.toList s
    have htext : Spelled.text ⟨text.toList.reverse, none, true⟩ = some text := by
      simp [Spelled.text]
    simp only [Spelled.start, List.append_nil, htext] at hread
    simpa [Spelled.start] using hread

theorem memberName_written (name : Option String) (s : List Symbol) :
    memberName ((writtenName name).map some ++ some ':' :: s) = .ok (name, s) := by
  obtain ⟨cs, hcs, hread⟩ := literal_writtenName name (some ':' :: s)
  have hcolon : skipGap (some ':' :: s) = some ':' :: s := skipGap_solid rfl s
  simp only [hcs, List.map_cons, List.cons_append, memberName, hread, hcolon]

/-! ## Values -/

theorem isDigit_solid {c : Char} (hc : c.isDigit = true) :
    isGap (some c) = false ∧ c ≠ ']' ∧ c ≠ '\x7d' := by
  refine ⟨?_, ?_, ?_⟩
  · simp only [isGap, Bool.or_eq_false_iff, beq_eq_false_iff_ne]
    refine ⟨⟨⟨?_, ?_⟩, ?_⟩, ?_⟩ <;> (rintro rfl; cases hc)
  · rintro rfl
    cases hc
  · rintro rfl
    cases hc

/-- a value starts with none of what surrounds or ends values -/
theorem render_head (lay : Layout) (depth : Nat) (v : Json) :
    ∃ c cs, render lay depth v = c :: cs ∧ isGap (some c) = false ∧ c ≠ ']' ∧ c ≠ '\x7d' := by
  cases v with
  | null => exact ⟨_, _, by rw [render], by decide⟩
  | bool b => cases b <;> exact ⟨_, _, by rw [render], by decide⟩
  | int n =>
    rw [render]
    unfold signedDigits
    split
    · exact ⟨_, _, rfl, by decide⟩
    · cases hds : digits n.natAbs with
      | nil => exact absurd hds (digits_ne_nil _)
      | cons d ds =>
        have hd : d.isDigit = true := isDigit_of_mem_digits (hds ▸ List.mem_cons_self)
        exact ⟨d, ds, rfl, isDigit_solid hd⟩
  | real tooLarge => cases tooLarge <;> exact ⟨_, _, by rw [render], by decide⟩
  | str text =>
    obtain ⟨cs, hcs, -⟩ := literal_writtenName text []
    exact ⟨_, _, by rw [render, hcs], by decide⟩
  | arr vs =>
    cases vs with
    | nil => exact ⟨'[', _, by rw [render], by decide⟩
    | cons v vs => exact ⟨'[', _, by simp only [render, List.cons_append]; rfl, by decide⟩
  | obj ms =>
    cases ms with
    | nil => exact ⟨'\x7b', _, by rw [render], by decide⟩
    | cons m ms => exact ⟨'\x7b', _, by simp only [render, List.cons_append]; rfl, by decide⟩

theorem value_digits (fuel n : Nat) {s : List Symbol} (hs : EndsNumeral s) :
    value (fuel + 1) ((digits n).map some ++ s) = .ok (.int n, s) := by
  have hread := numeral_digits false n hs
  have hvalue : numeralValue false (digits n) none none = .int n := by
    simp [numeralValue, ofDigits_digits]
  rw [hvalue] at hread
  cases hds : digits n with
  | nil => exact absurd hds (digits_ne_nil n)
  | cons d ds =>
    have hd : d.isDigit = true := isDigit_of_mem_digits (hds ▸ List.mem_cons_self)
    have hgap := skipGap_solid (isDigit_solid hd).1 (ds.map some ++ s)
    rw [hds] at hread
    simp only [List.map_cons, List.cons_append] at hread ⊢
    rw [value, hgap]
    -- a digit is none of the characters that start something else
    split <;> rename_i hstart <;> cases hstart
    case h_9 =>
      rw [if_pos hd]
      exact hread
    all_goals cases hd

theorem value_small (fuel : Nat) {s : List Symbol} (hs : EndsNumeral s) :
    value (fuel + 1) (['0', '.', '0'].map some ++ s) = .ok (.real false, s) := by
  have hrun := digitRun_digits (List.all_eq_true.1 rfl : ∀ c ∈ ['0'], c.isDigit = true) hs
  simp only [List.map_cons, List.map_nil, List.cons_append, List.nil_append] at hrun
  have hfraction : fractionDigits (some '.' :: some '0' :: s) = .ok (some ['0'], s) := by
    simp only [fractionDigits, hrun]
  have hwhole : wholeDigits (some '0' :: some '.' :: some '0' :: s) = .ok (['0'], some '.' :: some '0' :: s) := rfl
  have hread : numeral false (some '0' :: some '.' :: some '0' :: s) = .ok (.real false, s) := by
    simp only [numeral, hwhole, hfraction, exponent_none hs]
    rfl
  exact hread

theorem value_large (fuel : Nat) {s : List Symbol} (hs : EndsNumeral s) :
    value (fuel + 1) (['1', 'e', '3', '0', '9'].map some ++ s) = .ok (.real true, s) := by
  have hrun := digitRun_digits (List.all_eq_true.1 rfl : ∀ c ∈ ['3', '0', '9'], c.isDigit = true) hs
  simp only [List.map_cons, List.map_nil, List.cons_append, List.nil_append] at hrun
  have hexponent : exponent (some 'e' :: some '3' :: some '0' :: some '9' :: s) = .ok (some 309, s) := by
    have hplain : exponent (some 'e' :: some '3' :: some '0' :: some '9' :: s) =
      exponentAfter false (some '3' :: some '0' :: some '9' :: s) := rfl
    rw [hplain]
    simp only [exponentAfter, hrun]
    rfl
  have hread : numeral false (some '1' :: some 'e' :: some '3' :: some '0' :: some '9' :: s) = .ok (.real true, s) := by
    have hwhole : wholeDigits (some '1' :: some 'e' :: some '3' :: some '0' :: some '9' :: s) =
      .ok (['1'], some 'e' :: some '3' :: some '0' :: some '9' :: s) := rfl
    have hfraction : fractionDigits (some 'e' :: some '3' :: some '0' :: some '9' :: s) =
      .ok (none, some 'e' :: some '3' :: some '0' :: some '9' :: s) := rfl
    simp only [numeral, hwhole, hfraction, hexponent]
    rfl
  exact hread

theorem value_negative (fuel : Nat) {n : Nat} (hn : 0 < n) {s : List Symbol} (hs : EndsNumeral s) :
    value (fuel + 1) (some '-' :: ((digits n).map some ++ s)) = .ok (.int (-n), s) := by
  have hread := numeral_digits true n hs
  have hvalue : numeralValue true (digits n) none none = .int (-n) := by
    simp [numeralValue, ofDigits_digits, Nat.ne_of_gt hn]
  rw [hvalue] at hread
  have hgap := skipGap_solid (c := '-') rfl ((digits n).map some ++ s)
  simp only [value, hgap, hread]

/-- an integer is read back with its sign -/
theorem value_int (fuel : Nat) (n : Int) {s : List Symbol} (hs : EndsNumeral s) :
    value (fuel + 1) ((signedDigits n).map some ++ s) = .ok (.int n, s) := by
  unfold signedDigits
  split
  · rename_i hneg
    have hn : -(n.natAbs : Int) = n := by omega
    have hread := value_negative fuel (Int.natAbs_pos.2 hneg.ne) hs
    rw [List.map_cons, List.cons_append, hread, hn]
  · rename_i hpos
    have hn : (n.natAbs : Int) = n := Int.natAbs_of_nonneg (Int.not_lt.1 hpos)
    have hread := value_digits fuel n.natAbs hs
    rw [hread, hn]

theorem value_name (fuel : Nat) (text : Option String) (s : List Symbol) :
    value (fuel + 1) ((writtenName text).map some ++ s) = .ok (.str text, s) := by
  obtain ⟨cs, hcs, hread⟩ := literal_writtenName text s
  have hopen : skipGap (some '"' :: (cs.map some ++ s)) = some '"' :: (cs.map some ++ s) := skipGap_solid rfl _
  rw [hcs, List.map_cons, List.cons_append]
  simp only [value, hopen, hread]

theorem length_render_pos (lay : Layout) (depth : Nat) (v : Json) : 0 < (render lay depth v).length := by
  obtain ⟨c, cs, hcs, -⟩ := render_head lay depth v
  rw [hcs]
  exact Nat.succ_pos _

/-- an element and those after it, with the bracket -/
def elementsFrom (lay : Layout) (depth : Nat) (v : Json) (vs : List Json) : List Char :=
  render lay (depth + 1) v ++ renderElements lay depth vs

/-- a member and those after it, with the brace -/
def membersFrom (lay : Layout) (depth : Nat) (name : Option String) (v : Json) (ms : List (Option String × Json)) :
    List Char :=
  writtenName name ++ ':' :: (lay.afterColon ++ (render lay (depth + 1) v ++ renderMembers lay depth ms))

section Layouts

variable {lay : Layout} {fuel : Nat}

theorem render_list (lay : Layout) (depth : Nat) (v : Json) (vs : List Json) :
    render lay depth (.arr (v :: vs)) = '[' :: (lay.line (depth + 1) ++ elementsFrom lay depth v vs) := by
  simp only [render, elementsFrom, List.cons_append, List.append_assoc]

theorem render_object (lay : Layout) (depth : Nat) (name : Option String) (v : Json)
    (ms : List (Option String × Json)) : render lay depth (.obj ((name, v) :: ms)) =
      '\x7b' :: (lay.line (depth + 1) ++ membersFrom lay depth name v ms) := by
  simp only [render, membersFrom, List.cons_append, List.append_assoc]

theorem renderElements_cons (lay : Layout) (depth : Nat) (v : Json) (vs : List Json) :
    renderElements lay depth (v :: vs) = ',' :: (lay.line (depth + 1) ++ elementsFrom lay depth v vs) := by
  simp only [renderElements, elementsFrom, List.cons_append, List.append_assoc]

theorem renderMembers_cons (lay : Layout) (depth : Nat) (name : Option String) (v : Json)
    (ms : List (Option String × Json)) : renderMembers lay depth ((name, v) :: ms) =
      ',' :: (lay.line (depth + 1) ++ membersFrom lay depth name v ms) := by
  simp only [renderMembers, membersFrom, List.cons_append, List.append_assoc]

theorem elementsFrom_head (lay : Layout) (depth : Nat) (v : Json) (vs : List Json) :
    ∃ c cs, elementsFrom lay depth v vs = c :: cs ∧ isGap (some c) = false ∧ c ≠ ']' := by
  obtain ⟨c, cs, hcs, hsolid, hc, -⟩ := render_head lay (depth + 1) v
  exact ⟨c, cs ++ renderElements lay depth vs, by rw [elementsFrom, hcs, List.cons_append], hsolid, hc⟩

theorem membersFrom_head (lay : Layout) (depth : Nat) (name : Option String) (v : Json)
    (ms : List (Option String × Json)) : ∃ cs, membersFrom lay depth name v ms = '"' :: cs := by
  obtain ⟨cs, hcs, -⟩ := literal_writtenName name []
  exact ⟨_, by rw [membersFrom, hcs, List.cons_append]⟩

theorem endsNumeral_elements (hlay : lay.Airy) (depth : Nat) (vs : List Json) (s : List Symbol) :
    EndsNumeral ((renderElements lay depth vs).map some ++ s) := by
  cases vs with
  | nil =>
    simp only [renderElements, List.map_append, List.append_assoc]
    exact (endsNumeral_cons (.inr (.inl rfl)) s).after_gaps (hlay.line depth)
  | cons v vs =>
    simp only [renderElements, List.cons_append, List.map_cons]
    exact endsNumeral_cons (.inl rfl) _

theorem endsNumeral_members (hlay : lay.Airy) (depth : Nat) (ms : List (Option String × Json)) (s : List Symbol) :
    EndsNumeral ((renderMembers lay depth ms).map some ++ s) := by
  cases ms with
  | nil =>
    simp only [renderMembers, List.map_append, List.append_assoc]
    exact (endsNumeral_cons (.inr (.inr (.inl rfl))) s).after_gaps (hlay.line depth)
  | cons m ms =>
    simp only [renderMembers, List.cons_append, List.map_cons]
    exact endsNumeral_cons (.inl rfl) _

end Layouts

section Reading

variable {fuel : Nat} {c : Char} {q r s t u : List Symbol} {v : Json} {vs : List Json} {name : Option String}
  {ms : List (Option String × Json)}

/-- a gap in front of a value is skipped -/
theorem value_gap (hgap : skipGap s = skipGap t) : value (fuel + 1) s = value (fuel + 1) t := by
  simp only [value, hgap]

theorem elements_last (hv : value fuel s = .ok (v, t)) (hend : skipGap t = some ']' :: r) :
    elements (fuel + 1) s = .ok ([v], r) := by
  simp only [elements, hv, hend]

theorem elements_more (hv : value fuel s = .ok (v, t)) (hcomma : skipGap t = some ',' :: r)
    (hnext : skipGap r = some c :: q) (hc : c ≠ ']') (hrest : elements fuel (some c :: q) = .ok (vs, u)) :
    elements (fuel + 1) s = .ok (v :: vs, u) := by
  simp [elements, hv, hcomma, hnext, hc, hrest]

theorem members_last (hname : memberName s = .ok (name, t)) (hv : value fuel t = .ok (v, r))
    (hend : skipGap r = some '\x7d' :: u) : members (fuel + 1) s = .ok ([(name, v)], u) := by
  simp only [members, hname, hv, hend]

theorem members_more (hname : memberName s = .ok (name, t)) (hv : value fuel t = .ok (v, r))
    (hcomma : skipGap r = some ',' :: q) {p : List Symbol} (hnext : skipGap q = some c :: p) (hc : c ≠ '\x7d')
    (hrest : members fuel (some c :: p) = .ok (ms, u)) : members (fuel + 1) s = .ok ((name, v) :: ms, u) := by
  simp [members, hname, hv, hcomma, hnext, hc, hrest]

theorem value_list (hnext : skipGap s = some c :: r) (hc : c ≠ ']')
    (hvs : elements fuel (some c :: r) = .ok (vs, t)) : value (fuel + 1) (some '[' :: s) = .ok (.arr vs, t) := by
  have hopen : skipGap (some '[' :: s) = some '[' :: s := skipGap_solid rfl s
  simp [value, hopen, hnext, hc, hvs]

theorem value_object (hnext : skipGap s = some c :: r) (hc : c ≠ '\x7d')
    (hms : members fuel (some c :: r) = .ok (ms, t)) : value (fuel + 1) (some '\x7b' :: s) = .ok (.obj ms, t) := by
  have hopen : skipGap (some '\x7b' :: s) = some '\x7b' :: s := skipGap_solid rfl s
  simp [value, hopen, hnext, hc, hms]

end Reading

/-- what is written in a layout is read back on that much fuel -/
structure ReadsBack (lay : Layout) (fuel : Nat) : Prop where
  value : ∀ v depth s, 2 * (render lay depth v).length ≤ fuel → EndsNumeral s →
    value fuel ((render lay depth v).map some ++ s) = .ok (v, s)
  elements : ∀ v vs depth s, 2 * (elementsFrom lay depth v vs).length ≤ fuel →
    elements fuel ((elementsFrom lay depth v vs).map some ++ s) = .ok (v :: vs, s)
  members : ∀ name v ms depth s, 2 * (membersFrom lay depth name v ms).length ≤ fuel →
    members fuel ((membersFrom lay depth name v ms).map some ++ s) = .ok ((name, v) :: ms, s)

namespace ReadsBack

variable {lay : Layout} {fuel : Nat}

theorem elements_step (hlay : lay.Airy) (hback : ReadsBack lay fuel) (v : Json) (vs : List Json) (depth : Nat)
    (s : List Symbol) (hfuel : 2 * (elementsFrom lay depth v vs).length ≤ fuel + 1) :
    Json.elements (fuel + 1) ((elementsFrom lay depth v vs).map some ++ s) = .ok (v :: vs, s) := by
  have hends := endsNumeral_elements hlay depth vs s
  rw [elementsFrom, List.length_append] at hfuel
  rw [elementsFrom, List.map_append, List.append_assoc]
  cases vs with
  | nil =>
    simp only [renderElements, List.length_append, List.length_singleton] at hfuel
    have hv := hback.value v (depth + 1) _ (by omega) hends
    refine elements_last hv ?_
    rw [renderElements, List.map_append, List.append_assoc, skipGap_gaps (hlay.line depth)]
    exact skipGap_solid rfl s
  | cons w vs =>
    rw [renderElements_cons, List.length_cons, List.length_append] at hfuel
    have hv := hback.value v (depth + 1) _ (by omega) hends
    have hrest := hback.elements w vs depth s (by omega)
    obtain ⟨c, cs, hcs, hsolid, hc⟩ := elementsFrom_head lay depth w vs
    rw [hcs] at hrest
    refine elements_more hv (r := (lay.line (depth + 1) ++ elementsFrom lay depth w vs).map some ++ s) ?_ ?_ hc hrest
    · rw [renderElements_cons]
      exact skipGap_solid rfl _
    · rw [List.map_append, List.append_assoc, skipGap_gaps (hlay.line _), hcs]
      exact skipGap_solid hsolid _

theorem members_step (hlay : lay.Airy) (hback : ReadsBack lay fuel) (name : Option String) (v : Json)
    (ms : List (Option String × Json)) (depth : Nat) (s : List Symbol)
    (hfuel : 2 * (membersFrom lay depth name v ms).length ≤ fuel + 1) :
    Json.members (fuel + 1) ((membersFrom lay depth name v ms).map some ++ s) = .ok ((name, v) :: ms, s) := by
  have hends := endsNumeral_members hlay depth ms s
  rw [membersFrom, List.length_append, List.length_cons, List.length_append, List.length_append] at hfuel
  have hname := memberName_written name
    ((lay.afterColon ++ (render lay (depth + 1) v ++ renderMembers lay depth ms)).map some ++ s)
  have hv : 2 * (render lay (depth + 1) v).length ≤ fuel → Json.value fuel
      ((lay.afterColon ++ (render lay (depth + 1) v ++ renderMembers lay depth ms)).map some ++ s) =
        .ok (v, (renderMembers lay depth ms).map some ++ s) := by
    intro hlength
    have hpos := length_render_pos lay (depth + 1) v
    obtain ⟨n, rfl⟩ := Nat.exists_eq_succ_of_ne_zero (by omega : fuel ≠ 0)
    rw [List.map_append, List.append_assoc, value_gap (skipGap_gaps hlay.afterColon _), List.map_append,
      List.append_assoc]
    exact hback.value v (depth + 1) _ hlength hends
  rw [membersFrom, List.map_append, List.map_cons, List.append_assoc, List.cons_append]
  cases ms with
  | nil =>
    simp only [renderMembers, List.length_append, List.length_singleton] at hfuel
    refine members_last hname (hv (by omega)) ?_
    rw [renderMembers, List.map_append, List.append_assoc, skipGap_gaps (hlay.line depth)]
    exact skipGap_solid rfl s
  | cons m ms =>
    obtain ⟨next, w⟩ := m
    rw [renderMembers_cons, List.length_cons, List.length_append] at hfuel
    have hrest := hback.members next w ms depth s (by omega)
    obtain ⟨cs, hcs⟩ := membersFrom_head lay depth next w ms
    rw [hcs] at hrest
    refine members_more hname (hv (by omega))
      (q := (lay.line (depth + 1) ++ membersFrom lay depth next w ms).map some ++ s) ?_ ?_ (by decide) hrest
    · rw [renderMembers_cons]
      exact skipGap_solid rfl _
    · rw [List.map_append, List.append_assoc, skipGap_gaps (hlay.line _), hcs]
      exact skipGap_solid rfl _

theorem value_step (hlay : lay.Airy) (hback : ReadsBack lay fuel) (v : Json) (depth : Nat) (s : List Symbol)
    (hfuel : 2 * (render lay depth v).length ≤ fuel + 1) (hs : EndsNumeral s) :
    Json.value (fuel + 1) ((render lay depth v).map some ++ s) = .ok (v, s) := by
  cases v with
  | null =>
    rw [render]
    rfl
  | bool b =>
    cases b <;> rw [render] <;> rfl
  | int n =>
    rw [render]
    exact value_int fuel n hs
  | real tooLarge =>
    cases tooLarge with
    | false =>
      rw [render]
      exact value_small fuel hs
    | true =>
      rw [render]
      exact value_large fuel hs
  | str text =>
    rw [render]
    exact value_name fuel text s
  | arr vs =>
    cases vs with
    | nil =>
      rw [render]
      rfl
    | cons v vs =>
      rw [render_list, List.length_cons, List.length_append] at hfuel
      have hvs := hback.elements v vs depth s (by omega)
      obtain ⟨c, cs, hcs, hsolid, hc⟩ := elementsFrom_head lay depth v vs
      rw [hcs] at hvs
      rw [render_list, List.map_cons, List.cons_append]
      refine value_list ?_ hc hvs
      rw [List.map_append, List.append_assoc, skipGap_gaps (hlay.line _), hcs]
      exact skipGap_solid hsolid _
  | obj ms =>
    cases ms with
    | nil =>
      rw [render]
      rfl
    | cons m ms =>
      obtain ⟨name, v⟩ := m
      rw [render_object, List.length_cons, List.length_append] at hfuel
      have hms := hback.members name v ms depth s (by omega)
      obtain ⟨cs, hcs⟩ := membersFrom_head lay depth name v ms
      rw [hcs] at hms
      rw [render_object, List.map_cons, List.cons_append]
      refine value_object ?_ (by decide) hms
      rw [List.map_append, List.append_assoc, skipGap_gaps (hlay.line _), hcs]
      exact skipGap_solid rfl _

end ReadsBack

theorem readsBack {lay : Layout} (hlay : lay.Airy) (fuel : Nat) : ReadsBack lay fuel := by
  induction fuel with
  | zero =>
    refine ⟨fun v depth s hfuel => ?_, fun v vs depth s hfuel => ?_, fun name v ms depth s hfuel => ?_⟩
    · have hpos := length_render_pos lay depth v
      omega
    · have hpos := length_render_pos lay (depth + 1) v
      rw [elementsFrom, List.length_append] at hfuel
      omega
    · rw [membersFrom, List.length_append, List.length_cons] at hfuel
      omega
  | succ fuel ih => exact ⟨ih.value_step hlay, ih.elements_step hlay, ih.members_step hlay⟩

/-- **What is written is read back.** -/
theorem read_render {lay : Layout} (hlay : lay.Airy) (v : Json) : read ((render lay 0 v).map some) = .ok v := by
  have hread := (readsBack hlay (fuelFor ((render lay 0 v).map some))).value v 0 [] (by
    simp only [fuelFor, List.length_map]
    omega) endsNumeral_nil
  rw [List.append_nil] at hread
  simp only [read, hread]
  rfl

/-! ## Documents -/

/-- the bytes of a text have the symbols of that text -/
theorem ofBytes_toUTF8 (s : String) : ofBytes s.toUTF8 = ofText s := by
  have hvalid : String.fromUTF8? s.toUTF8 = some s := dif_pos s.isValidUTF8
  unfold ofBytes
  rw [hvalid]

theorem ofText_pretty (v : Json) : ofText v.pretty = (render .pretty 0 v).map some := by
  simp only [ofText, pretty, String.toList_ofList]

theorem ofText_compact (v : Json) : ofText v.compact = (render .compact 0 v).map some := by
  simp only [ofText, compact, String.toList_ofList]

section Decoding

variable {α : Type} {decoder : Decoder α} {a : α}

theorem decode_ok_iff {source : List Symbol} :
    decode decoder source = .ok a ↔ ∃ v, read source = .ok v ∧ decoder v = .ok a := by
  unfold decode
  cases read source with
  | error fault => simp
  | ok v => cases h : decoder v <;> simp [h]

/-- a document whose value is decoded or refused as garbled -/
theorem decode_ite {source : List Symbol} {v : Json} (hread : read source = .ok v) {taken : Bool}
    (hv : decoder v = if taken then .ok a else .error .garbled) :
    decode decoder source = if taken then .ok a else .error (.misfit .garbled (endPlace source)) := by
  simp only [decode, hread, hv]
  cases taken <;> rfl

/-- a written document decodes to what its value decodes to -/
theorem decode_render {lay : Layout} (hlay : lay.Airy) {v : Json} :
    decode decoder ((render lay 0 v).map some) = .ok a ↔ decoder v = .ok a := by
  simp only [decode_ok_iff, read_render hlay, Except.ok.injEq, exists_eq_left']

theorem decode_pretty {v : Json} : decode decoder (ofBytes v.pretty.toUTF8) = .ok a ↔ decoder v = .ok a := by
  rw [ofBytes_toUTF8, ofText_pretty, decode_render Layout.airy_pretty]

end Decoding

end VisualNovel.Json
