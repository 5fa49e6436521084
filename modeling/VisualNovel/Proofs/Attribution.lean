/-
Who says what: the rule of a line in characters, and the classifier that finds and cuts at offsets in bytes.

- `Speech.Named`: the name in a speaker text and how it is shown; `Speech.Said`: what is said behind the opening bracket.
- `Speech.Attributed`: a line with a short text before its first opening bracket, and the name in it.
- `Speech.Classified`: the whole rule. A line is narration unless it is attributed to somebody on the roster.
- `nameOf?_named`, `contentOf?_said`, `classify?_classified`: each part of the classifier computes its part of the rule, and
  every cut is made where a character starts; `Classified.total`: the rule has an answer for every line.
- `line_classified`: so the classifier meets no fault on any line and computes the rule.
- `content_again`: what is said may be a speaker's line once more, but only where brackets are nested; otherwise it is
  narration, as it stands.
-/
import Mathlib.Tactic
import VisualNovel.Speech

namespace VisualNovel

namespace Speech

/-! ## The rule -/

/-- longer than `least` characters, with `count` marks in front and behind -/
structure Wrapped (count least : Nat) (candidate : List Char) : Prop where
  long : least < candidate.length
  front : List.replicate count mark <+: candidate
  back : List.replicate count mark <:+ candidate

/-- a text that ends with a colon of either width -/
def EndsInColon (front candidate : List Char) : Prop := candidate = front ++ [':'] ∨ candidate = front ++ ['：']

/-- the name in a speaker text, and how it is shown -/
inductive Named : List Char → List Char → DisplayMode → Prop where
  /-- between two marks on either side: without two characters in front and three behind -/
  | special {front name back : List Char} (hwrapped : Wrapped 2 4 (front ++ name ++ back)) (hfront : front.length = 2)
    (hback : back.length = 3) : Named (front ++ name ++ back) (Text.trim name) .special
  /-- else between a mark on either side: without the first and the last character -/
  | hidden {front name back : List Char} (hdouble : ¬ Wrapped 2 4 (front ++ name ++ back))
    (hwrapped : Wrapped 1 2 (front ++ name ++ back)) (hfront : front.length = 1) (hback : back.length = 1) :
    Named (front ++ name ++ back) (Text.trim name) .hidden
  /-- else without one final colon and the blanks before it -/
  | colon {candidate front : List Char} (hdouble : ¬ Wrapped 2 4 candidate) (hsingle : ¬ Wrapped 1 2 candidate)
    (hcolon : EndsInColon front candidate) : Named candidate (Text.trimEnd front) .display
  /-- else as it is -/
  | plain {candidate : List Char} (hdouble : ¬ Wrapped 2 4 candidate) (hsingle : ¬ Wrapped 1 2 candidate)
    (hcolon : ∀ front, ¬ EndsInColon front candidate) : Named candidate candidate .display

/-- what is said in the text behind the opening bracket -/
inductive Said : List Char → List Char → Prop where
  /-- up to the last closing bracket -/
  | closed {said rest : List Char} (hlast : closeQuote ∉ rest) : Said (said ++ closeQuote :: rest) (Text.trim said)
  /-- all of it, if there is none -/
  | unclosed {body : List Char} (hclose : closeQuote ∉ body) : Said body (Text.trim body)

/-- a line with a short text before its first opening bracket, and the name in that text -/
structure Attributed (line before body name : List Char) (mode : DisplayMode) : Prop where
  split : line = before ++ openQuote :: body
  first : openQuote ∉ before
  nonempty : 0 < (Text.trim before).length
  short : (Text.trim before).length < 8
  named : Named (Text.trim before) name mode

/-- the classified form of a line, or of no line -/
inductive Classified (roster : Roster) : Option String → Speech → Prop where
  /-- there is no line -/
  | absent : Classified roster none (narration "")
  /-- no opening bracket, as in the empty line -/
  | unquoted {line : String} (hopen : openQuote ∉ line.toList) : Classified roster (some line) (narration line)
  /-- the bracket comes first -/
  | leading {line : String} {body : List Char} (hline : line.toList = openQuote :: body) :
    Classified roster (some line) (narration line)
  /-- the text before it is empty or long -/
  | nameless {line : String} {before body : List Char} (hline : line.toList = before ++ openQuote :: body)
    (hfirst : openQuote ∉ before) (hlength : (Text.trim before).length = 0 ∨ 8 ≤ (Text.trim before).length) :
    Classified roster (some line) (narration line)
  /-- nobody on the roster has the name -/
  | unknown {line : String} {before body name : List Char} {mode : DisplayMode}
    (hattributed : Attributed line.toList before body name mode) (hname : String.ofList name ∉ roster.names) :
    Classified roster (some line) (narration line)
  /-- somebody on the roster speaks -/
  | spoken {line : String} {before body name content : List Char} {mode : DisplayMode}
    (hattributed : Attributed line.toList before body name mode) (hname : String.ofList name ∈ roster.names)
    (hsaid : Said body content) :
    Classified roster (some line) ⟨String.ofList name, String.ofList content, mode⟩

/-! ## Names -/

theorem isMarked_iff {count : Nat} {cs : List Char} :
    isMarked count cs = true ↔ List.replicate count mark <+: cs ∧ List.replicate count mark <:+ cs := by
  simp [isMarked]

theorem wrapped_iff {count least : Nat} {cs : List Char} :
    Wrapped count least cs ↔ least < cs.length ∧ isMarked count cs = true := by
  rw [isMarked_iff]
  exact ⟨fun h => ⟨h.long, h.front, h.back⟩, fun ⟨hlong, hfront, hback⟩ => ⟨hlong, hfront, hback⟩⟩

theorem charSlice?_append (front middle back : List Char) :
    charSlice? front.length (front ++ middle).length (front ++ middle ++ back) = some middle := by
  have hfirst : Text.offsetOf front.length (front ++ middle ++ back) = Text.byteSize front := by
    rw [Text.offsetOf_eq, List.append_assoc, List.take_left]
  have hlast : Text.offsetOf (front ++ middle).length (front ++ middle ++ back) = Text.byteSize (front ++ middle) := by
    rw [Text.offsetOf_eq, List.take_left]
  simp only [charSlice?, hfirst, hlast, Text.slice?_append]
  split
  · rename_i hle
    have hmiddle : Text.byteSize middle = 0 := by rw [Text.byteSize_append] at hle; omega
    rw [Text.byteSize_eq_zero_iff.1 hmiddle]
  · rfl

theorem dropColon_colon {front candidate : List Char} (hcolon : EndsInColon front candidate) :
    dropColon candidate = Text.trimEnd front := by
  rcases hcolon with rfl | rfl <;> simp [dropColon]

theorem dropColon_plain {candidate : List Char} (hcolon : ∀ front, ¬ EndsInColon front candidate) :
    dropColon candidate = candidate := by
  have hfront : ∀ c front, candidate.reverse = c :: front → candidate = front.reverse ++ [c] := by
    intro c front h
    rw [← List.reverse_cons, ← h, List.reverse_reverse]
  unfold dropColon
  split
  · rename_i front h
    exact absurd (Or.inl (hfront _ _ h)) (hcolon front.reverse)
  · rename_i front h
    exact absurd (Or.inr (hfront _ _ h)) (hcolon front.reverse)
  · rfl

/-- **The classifier finds the name by the rule.** -/
theorem nameOf?_named {candidate name : List Char} {mode : DisplayMode} (hnamed : Named candidate name mode) :
    nameOf? candidate = some (name, mode) := by
  unfold nameOf?
  cases hnamed with
  | @special front name back hwrapped hfront hback =>
    have hstop : (front ++ name ++ back).length - 3 = (front ++ name).length := by simp [hback]; omega
    rw [if_pos (wrapped_iff.1 hwrapped), hstop, ← hfront, charSlice?_append]
    rfl
  | @hidden front name back hdouble hwrapped hfront hback =>
    have hstop : (front ++ name ++ back).length - 1 = (front ++ name).length := by simp [hback]
    rw [if_neg (mt wrapped_iff.2 hdouble), if_pos (wrapped_iff.1 hwrapped), hstop, ← hfront, charSlice?_append]
    rfl
  | colon hdouble hsingle hcolon =>
    rw [if_neg (mt wrapped_iff.2 hdouble), if_neg (mt wrapped_iff.2 hsingle), dropColon_colon hcolon]
  | plain hdouble hsingle hcolon =>
    rw [if_neg (mt wrapped_iff.2 hdouble), if_neg (mt wrapped_iff.2 hsingle), dropColon_plain hcolon]

/-- a text in three parts, the outer two of given lengths -/
theorem exists_parts {m n : Nat} {cs : List Char} (hlong : m + n ≤ cs.length) :
    ∃ front middle back, cs = front ++ middle ++ back ∧ front.length = m ∧ back.length = n := by
  refine ⟨cs.take m, (cs.drop m).take (cs.length - n - m), (cs.drop m).drop (cs.length - n - m), ?_, ?_, ?_⟩
  · rw [List.append_assoc, List.take_append_drop, List.take_append_drop]
  · simp; omega
  · simp; omega

theorem Named.total (candidate : List Char) : ∃ name mode, Named candidate name mode := by
  by_cases hdouble : Wrapped 2 4 candidate
  · obtain ⟨front, name, back, rfl, hfront, hback⟩ := exists_parts (m := 2) (n := 3) hdouble.long
    exact ⟨_, _, .special hdouble hfront hback⟩
  by_cases hsingle : Wrapped 1 2 candidate
  · obtain ⟨front, name, back, rfl, hfront, hback⟩ := exists_parts (m := 1) (n := 1) hsingle.long.le
    exact ⟨_, _, .hidden hdouble hsingle hfront hback⟩
  by_cases hcolon : ∃ front, EndsInColon front candidate
  · obtain ⟨front, hfront⟩ := hcolon
    exact ⟨_, _, .colon hdouble hsingle hfront⟩
  · exact ⟨_, _, .plain hdouble hsingle (not_exists.1 hcolon)⟩

/-! ## What is said -/

/-- **The classifier cuts out what is said by the rule**, and cuts where characters start. -/
theorem contentOf?_said {before body content : List Char} (hsaid : Said body content) :
    contentOf? (Text.byteSize before) (before ++ openQuote :: body) = some content := by
  -- the body starts behind the bracket, and so does a closing bracket in it
  have hstart : Text.byteSize before + openQuote.utf8Size = Text.byteSize (before ++ [openQuote]) := by simp
  have hline : before ++ openQuote :: body = before ++ [openQuote] ++ body := by simp
  have hopen : openQuote.utf8Size = 3 := rfl
  simp only [contentOf?, hstart]
  cases hsaid with
  | @closed said rest hlast =>
    have hclosing : before ++ openQuote :: (said ++ closeQuote :: rest) =
        before ++ [openQuote] ++ said ++ closeQuote :: rest := by simp
    have hbehind : Text.byteSize before < Text.byteSize (before ++ [openQuote] ++ said) := by simp [hopen]
    rw [hclosing, Text.rfind?_append hlast]
    simp only [if_pos hbehind, Text.slice?_append, Option.map_some]
  | unclosed hclose =>
    rw [hline, Text.from?_append]
    cases hr : Text.rfind? closeQuote (before ++ [openQuote] ++ body) with
    | none => rfl
    | some closing =>
      -- a closing bracket before the opening one does not count
      have hback : closeQuote ∉ openQuote :: body := List.not_mem_cons_of_ne_of_not_mem (by decide) hclose
      rw [List.append_assoc] at hr
      simp only [if_neg (Nat.lt_asymm (Text.rfind?_lt hback hr)), Option.map_some]

theorem Said.total (body : List Char) : ∃ content, Said body content := by
  by_cases hclose : closeQuote ∈ body
  · obtain ⟨rest, said, hbody, hlast⟩ := List.eq_append_cons_of_mem (List.mem_reverse.2 hclose)
    refine ⟨Text.trim said.reverse, ?_⟩
    have hsplit : body = said.reverse ++ closeQuote :: rest.reverse := by
      rw [← List.reverse_reverse body, hbody]
      simp
    rw [hsplit]
    exact .closed (by simpa using hlast)
  · exact ⟨_, .unclosed hclose⟩

/-! ## Lines -/

/-- where the first bracket is known the classifier has only the name to look up -/
theorem classify?_split {roster : Roster} {line : String} {before body : List Char}
    (hline : line.toList = before ++ openQuote :: body) (hfirst : openQuote ∉ before) (hbefore : before ≠ []) :
    classify? roster line =
      if Text.trim before = [] ∨ nameLimit ≤ (Text.trim before).length then some (narration line)
      else (contentOf? (Text.byteSize before) line.toList).bind fun content =>
        (nameOf? (Text.trim before)).bind fun (name, mode) => some
          (if roster.contains (String.ofList name) then ⟨String.ofList name, String.ofList content, mode⟩
            else narration line) := by
  have hsize : Text.byteSize before ≠ 0 := mt Text.byteSize_eq_zero_iff.1 hbefore
  simp only [classify?, hline, Text.find?_append hfirst, if_neg hsize, Text.upTo?_append]
  rfl

theorem classify?_leading (roster : Roster) {line : String} {body : List Char} (hline : line.toList = openQuote :: body) :
    classify? roster line = some (narration line) := by
  have hfind : Text.find? openQuote (openQuote :: body) = some 0 := Text.find?_append List.not_mem_nil body
  simp only [classify?, hline, hfind, if_true]

theorem classify?_attributed (roster : Roster) {line : String} {before body name content : List Char}
    {mode : DisplayMode} (ha : Attributed line.toList before body name mode) (hsaid : Said body content) :
    classify? roster line = some
      (if roster.contains (String.ofList name) then ⟨String.ofList name, String.ofList content, mode⟩
        else narration line) := by
  have hne : Text.trim before ≠ [] := List.ne_nil_of_length_pos ha.nonempty
  have hbefore : before ≠ [] := by rintro rfl; exact hne rfl
  have hlength : ¬ (Text.trim before = [] ∨ nameLimit ≤ (Text.trim before).length) :=
    not_or.2 ⟨hne, Nat.not_le.2 ha.short⟩
  rw [classify?_split ha.split ha.first hbefore, if_neg hlength, ha.split, contentOf?_said hsaid,
    nameOf?_named ha.named]
  rfl

/-- **The classifier computes the rule.** -/
theorem classify?_classified {roster : Roster} {line : Option String} {s : Speech} (hs : Classified roster line s) :
    classify? roster (line.getD "") = some s := by
  cases hs with
  | absent => rfl
  | unquoted hopen => simp only [Option.getD_some, classify?, Text.find?_eq_none_iff.2 hopen]
  | leading hline => exact classify?_leading roster hline
  | @nameless line before body hline hfirst hlength =>
    rw [Option.getD_some]
    rcases eq_or_ne before [] with rfl | hbefore
    · exact classify?_leading roster hline
    · have hlimit : Text.trim before = [] ∨ nameLimit ≤ (Text.trim before).length :=
        hlength.imp_left List.length_eq_zero_iff.1
      rw [classify?_split hline hfirst hbefore, if_pos hlimit]
  | @unknown line before body name mode ha hname =>
    obtain ⟨content, hsaid⟩ := Said.total body
    rw [Option.getD_some, classify?_attributed roster ha hsaid, if_neg (by simpa [Roster.contains] using hname)]
  | spoken ha hname hsaid =>
    rw [Option.getD_some, classify?_attributed roster ha hsaid, if_pos (by simpa [Roster.contains] using hname)]

/-- **The rule has an answer for every line.** -/
theorem Classified.total (roster : Roster) (line : Option String) : ∃ s, Classified roster line s := by
  cases line with
  | none => exact ⟨_, .absent⟩
  | some line =>
    by_cases hopen : openQuote ∈ line.toList
    · obtain ⟨before, body, hline, hfirst⟩ := List.eq_append_cons_of_mem hopen
      by_cases hlength : (Text.trim before).length = 0 ∨ 8 ≤ (Text.trim before).length
      · exact ⟨_, .nameless hline hfirst hlength⟩
      obtain ⟨name, mode, hnamed⟩ := Named.total (Text.trim before)
      obtain ⟨content, hsaid⟩ := Said.total body
      have ha : Attributed line.toList before body name mode := ⟨hline, hfirst, by omega, by omega, hnamed⟩
      by_cases hname : String.ofList name ∈ roster.names
      · exact ⟨_, .spoken ha hname hsaid⟩
      · exact ⟨_, .unknown ha hname⟩
    · exact ⟨_, .unquoted hopen⟩

theorem ofLine_classified {roster : Roster} {line : Option String} {s : Speech} (hs : Classified roster line s) :
    ofLine roster line = s := by
  simp only [ofLine, classify?_classified hs, Option.getD_some]

theorem classified_ofLine (roster : Roster) (line : Option String) : Classified roster line (ofLine roster line) := by
  obtain ⟨s, hs⟩ := Classified.total roster line
  rwa [ofLine_classified hs]

/-- **The classifier computes the rule and meets no fault.** On any line, or none, and any roster every cut is made where a
character starts or the line ends, and what comes of the line is what the rule says, and nothing else. -/
theorem line_classified (roster : Roster) (line : Option String) :
    classify? roster (line.getD "") = some (ofLine roster line) ∧
      ∀ s, Classified roster line s ↔ s = ofLine roster line := by
  refine ⟨classify?_classified (classified_ofLine roster line), fun s => ⟨fun hs => (ofLine_classified hs).symm, ?_⟩⟩
  rintro rfl
  exact classified_ofLine roster line

/-! ## Lines within lines -/

/-- the line is that of somebody on the roster -/
def IsSpoken (roster : Roster) (line : String) : Prop :=
  ∃ before body name mode, Attributed line.toList before body name mode ∧ String.ofList name ∈ roster.names

theorem trim_within (cs : List Char) : Text.trim cs <:+: cs := by
  have hend : Text.trimEnd (Text.trimStart cs) <+: Text.trimStart cs := by
    rw [Text.trimEnd, ← List.reverse_suffix, List.reverse_reverse]
    exact List.dropWhile_suffix _
  exact hend.isInfix.trans (List.dropWhile_suffix _).isInfix

theorem Said.within {body content : List Char} (hsaid : Said body content) : content <:+: body := by
  cases hsaid with
  | @closed said rest =>
    exact (trim_within said).trans (List.prefix_append said (closeQuote :: rest)).isInfix
  | unclosed => exact trim_within body

theorem ofLine_narration {roster : Roster} {line : String} (hline : ¬ IsSpoken roster line) :
    ofLine roster (some line) = narration line := by
  have hs := classified_ofLine roster (some line)
  generalize ofLine roster (some line) = s at hs
  cases hs with
  | spoken ha hname => exact absurd ⟨_, _, _, _, ha, hname⟩ hline
  | _ => rfl

/-- what is said is less than the line, by a bracket at least -/
theorem content_less {roster : Roster} {line : String} (hline : IsSpoken roster line) :
    let content := (ofLine roster (some line)).content.toList
    content.length < line.toList.length ∧ content.count openQuote < line.toList.count openQuote := by
  obtain ⟨before, body, name, mode, ha, hname⟩ := hline
  obtain ⟨content, hsaid⟩ := Said.total body
  have hlength := hsaid.within.length_le
  have hcount := hsaid.within.sublist.count_le openQuote
  rw [ofLine_classified (.spoken ha hname hsaid), ha.split]
  simp
  omega

theorem ofLine_eq_narration_iff {roster : Roster} {line : String} :
    ofLine roster (some line) = narration line ↔ ¬ IsSpoken roster line := by
  refine ⟨fun h hline => ?_, ofLine_narration⟩
  have hless := (content_less hline).1
  rw [h] at hless
  exact lt_irrefl _ hless

/-- what is said can be a speaker's line only if the line around it is one -/
theorem isSpoken_of_content {roster : Roster} {line : Option String}
    (hcontent : IsSpoken roster (ofLine roster line).content) : IsSpoken roster (line.getD "") := by
  have hgetD : ofLine roster line = ofLine roster (some (line.getD "")) := rfl
  by_contra hline
  rw [hgetD, ofLine_narration hline] at hcontent
  exact hline hcontent

/-- **What is said, read as a line again.** On any line and any roster the content of the classified line, classified once
more, is narration and stays as it is, unless it is itself the line of somebody on the roster. That takes a speaker's line
with another opening bracket in what is said, and then what is left has fewer brackets and fewer characters. -/
theorem content_again (roster : Roster) (line : Option String) :
    let content := (ofLine roster line).content
    let again := ofLine roster (some content)
    (again = narration content ↔ ¬ IsSpoken roster content) ∧
      (IsSpoken roster content → IsSpoken roster (line.getD "") ∧
        0 < content.toList.count openQuote ∧
        content.toList.count openQuote < (line.getD "").toList.count openQuote ∧
        again.content.toList.length < content.toList.length) := by
  intro content again
  refine ⟨ofLine_eq_narration_iff, fun hcontent => ?_⟩
  have hline := isSpoken_of_content hcontent
  obtain ⟨hlength, hcount⟩ := content_less hcontent
  exact ⟨hline, Nat.zero_lt_of_lt hcount, (content_less hline).2, hlength⟩

/-- **What is said can be read as another line.** -/
theorem nested_line_again :
    let roster : Roster := ⟨["守"]⟩
    let content := (ofLine roster (some "守「守「あ」」")).content
    content = "守「あ」" ∧ ofLine roster (some content) = ⟨"守", "あ", .display⟩ ∧
      ofLine roster (some content) ≠ narration content := by
  decide

/-- a line in a line, and what is left of it -/
theorem nested_line_less :
    let roster : Roster := ⟨["守"]⟩
    let content := (ofLine roster (some "守「守「あ」」")).content
    IsSpoken roster content ∧ (ofLine roster (some content)).content.toList.length < content.toList.length := by
  intro roster content
  obtain ⟨hagain, hnested⟩ := content_again roster (some "守「守「あ」」")
  have hcontent : IsSpoken roster content := by
    by_contra hplain
    exact absurd (hagain.2 hplain) (by decide)
  exact ⟨hcontent, (hnested hcontent).2.2.2⟩

end Speech

end VisualNovel
