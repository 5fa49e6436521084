/-
Counters and cues of the voice tracker over any history.

A tracker hears notifications and is asked for cues again in between. Its counters and its last cue follow from the lines
it has heard, and from the resets among them.

- `Speakers.VoicedAs`: who is voiced under which key; several speakers may share one.
- `Numbered`, `LastCue`: the number of a line and the cue of the last line, laid out over what was told. A line keeps its
  authored number unless that is negative; otherwise the number is how many lines of its key there were since the last
  reset, the line itself included. A reset takes nothing from the last cue.
- `Speakers.Within`, `Placed`: the histories in which no number runs over. Fewer than 2^32 lines of a key come between
  resets and authored numbers are of 32 bits; and the blocks of lines, counted from one, are sizes.
- `tracker_follows_lines`: after any requests from the start the counters are the numbers of lines since the last reset,
  and the last cue is the one laid out. In those histories its line number is of 32 bits and its event that of a size.
-/
import VisualNovel.Proofs.Voices

namespace VisualNovel

/-! ## Who is voiced -/

namespace Speakers

/-- a speaker is voiced under a key: somebody who is not silent and mapped to the key -/
def VoicedAs (s : Speakers) (speaker key : String) : Prop :=
  speaker ≠ "" ∧ speaker ∉ s.silent ∧ s.voiceKeys.lookup speaker = some key

variable {s : Speakers} {speaker key : String}

theorem voiceKey_eq_some_iff : s.voiceKey speaker = some key ↔ s.VoicedAs speaker key := by
  unfold voiceKey VoicedAs
  split
  next hnobody =>
    simp only [reduceCtorEq, false_iff, not_and]
    intro hne hsilent
    exact absurd hnobody (not_or.2 ⟨hne, hsilent⟩)
  next hsomebody =>
    obtain ⟨hne, hsilent⟩ := not_or.1 hsomebody
    exact ⟨fun h => ⟨hne, hsilent, h⟩, fun h => h.2.2⟩

theorem voiceKey_eq_none_iff : s.voiceKey speaker = none ↔ ∀ key, ¬ s.VoicedAs speaker key := by
  simp only [← voiceKey_eq_some_iff, Option.eq_none_iff_forall_ne_some, ne_eq]

theorem voices_iff {n : Notification} :
    s.voices key n ↔ ∃ l, n = .dialogLine l ∧ s.VoicedAs l.speech.speaker key := by
  cases n with
  | dialogLine l => simp [voices, voiceKey_eq_some_iff]
  | _ => simp [voices]

end Speakers

/-! ## The last cue -/

/-- the number of a line of a key, with what was told before it -/
inductive Numbered (s : Speakers) (key : String) (before : List Notification) (l : DialogLine) : Nat → Prop where
  | authored {number : Nat} (hnumber : l.lineNumber = some (number : Int)) : Numbered s key before l number
  /-- no authored number, or a negative one: the lines of the key since the last reset -/
  | counted (hnone : ∀ number, l.lineNumber = some number → number < 0) :
    Numbered s key before l ((sinceReset (before ++ [.dialogLine l])).countP (s.voices key))

/-- the event of the block of a line -/
def DialogLine.event (l : DialogLine) : String := "REN" ++ String.ofList (Text.padded 4 (l.blockIndex + 1))

/-- no line among notifications -/
def Lineless (ns : List Notification) : Prop := ∀ l, .dialogLine l ∉ ns

/-- the cue of the last line that was told -/
inductive LastCue (a : Assets) (s : Speakers) : List Notification → Option VoiceCue → Prop where
  /-- there was no line -/
  | lineless {ns : List Notification} (hns : Lineless ns) : LastCue a s ns none
  /-- the last line was not voiced -/
  | unvoiced {before rest : List Notification} {l : DialogLine} (hrest : Lineless rest)
    (hkey : ∀ key, ¬ s.VoicedAs l.speech.speaker key) : LastCue a s (before ++ .dialogLine l :: rest) none
  | voiced {before rest : List Notification} {l : DialogLine} {key : String} {number : Nat} (hrest : Lineless rest)
    (hkey : s.VoicedAs l.speech.speaker key) (hnumber : Numbered s key before l number) :
    LastCue a s (before ++ .dialogLine l :: rest) (some ⟨key, l.event, number, a.voice key l.event number⟩)

namespace Lineless

variable {ns : List Notification} {n : Notification}

theorem nil : Lineless [] := fun _ => List.not_mem_nil

theorem concat (hns : Lineless ns) (hn : ∀ l, n ≠ .dialogLine l) : Lineless (ns ++ [n]) := by
  intro l hl
  rcases List.mem_append.1 hl with hl | hl
  · exact hns l hl
  · exact hn l (List.mem_singleton.1 hl).symm

end Lineless

section Tracker

variable {a : Assets} {s : Speakers} {ns : List Notification} {n : Notification} {cue : Option VoiceCue}

/-- after a notification that is no line the last line is the same -/
theorem LastCue.concat (h : LastCue a s ns cue) (hn : ∀ l, n ≠ .dialogLine l) : LastCue a s (ns ++ [n]) cue := by
  cases h with
  | lineless hns => exact .lineless (hns.concat hn)
  | unvoiced hrest hkey =>
    rw [List.append_assoc, List.cons_append]
    exact .unvoiced (hrest.concat hn) hkey
  | voiced hrest hkey hnumber =>
    rw [List.append_assoc, List.cons_append]
    exact .voiced (hrest.concat hn) hkey hnumber

namespace VoiceTracker

theorem lastCue_hear (t : VoiceTracker) (hn : ∀ l, n ≠ .dialogLine l) : (t.hear a s n).lastCue = t.lastCue := by
  cases n with
  | dialogLine l => exact absurd rfl (hn l)
  | _ => rfl

theorem hear_other (t : VoiceTracker) (hn : ∀ l, n ≠ .dialogLine l) (hreset : n ≠ .resetLineCounters) :
    t.hear a s n = t := by
  cases n with
  | dialogLine l => exact absurd rfl (hn l)
  | resetLineCounters => exact absurd rfl hreset
  | _ => rfl

theorem lastCue_hear_all (t : VoiceTracker) (hns : Lineless ns) : (ns.foldl (hear a s) t).lastCue = t.lastCue := by
  induction ns generalizing t with
  | nil => rfl
  | cons n ns ih =>
    rw [List.foldl_cons, ih _ fun l hl => hns l (List.mem_cons_of_mem n hl)]
    exact t.lastCue_hear fun l hl => hns l (hl ▸ List.mem_cons_self)

/-- the tracker after notifications, from the start -/
def after (a : Assets) (s : Speakers) (ns : List Notification) : VoiceTracker := ns.foldl (hear a s) start

theorem after_append (ns ms : List Notification) : after a s (ns ++ ms) = ms.foldl (hear a s) (after a s ns) :=
  List.foldl_append

/-- **A counter stands at the lines of its key since the last reset.** -/
theorem count_after (ns : List Notification) (key : String) :
    (after a s ns).count key = (sinceReset ns).countP (s.voices key) := by
  rw [after, count_hear_all, show start.count key = 0 from rfl, ite_self, Nat.zero_add]

/-- the number that a tracker gives a line is the one laid out -/
theorem numbered (before : List Notification) (l : DialogLine) (key : String) :
    Numbered s key before l
      ((authoredNumber l.lineNumber).getD ((after a s (before ++ [.dialogLine l])).count key)) := by
  rw [count_after]
  cases hline : l.lineNumber with
  | none => exact .counted (by simp [hline])
  | some number =>
    by_cases hpos : 0 ≤ number
    · rw [authoredNumber, if_pos hpos, Option.getD_some]
      exact .authored (by rw [hline, Int.toNat_of_nonneg hpos])
    · rw [authoredNumber, if_neg hpos, Option.getD_none]
      refine .counted fun number' hnumber => ?_
      cases hline.symm.trans hnumber
      exact Int.not_le.1 hpos

/-- the last cue after a line, by its voice key -/
theorem lastCue_line (before : List Notification) (l : DialogLine) :
    (after a s (before ++ [.dialogLine l])).lastCue = (after a s (before ++ [.dialogLine l])).cueOn a s l := by
  rw [after_append]
  exact ((after a s before).speak_heard a s l).cue

/-- **The last cue of a tracker is the cue of the last line.** -/
theorem after_lastCue (ns : List Notification) : LastCue a s ns (after a s ns).lastCue := by
  induction ns using List.reverseRecOn with
  | nil => exact .lineless .nil
  | append_singleton ns n ih =>
    by_cases hn : ∃ l, n = .dialogLine l
    · obtain ⟨l, rfl⟩ := hn
      rw [lastCue_line, cueOn]
      cases hkey : s.voiceKey l.speech.speaker with
      | none => exact .unvoiced .nil (Speakers.voiceKey_eq_none_iff.1 hkey)
      | some key => exact .voiced .nil (Speakers.voiceKey_eq_some_iff.1 hkey) (numbered ns l key)
    · rw [not_exists] at hn
      rw [after_append, List.foldl_cons, List.foldl_nil, lastCue_hear _ hn]
      exact ih.concat hn

/-- what comes after the last line takes nothing from its cue -/
theorem lastCue_after (before : List Notification) (l : DialogLine) {rest : List Notification}
    (hrest : Lineless rest) :
    (after a s (before ++ .dialogLine l :: rest)).lastCue = (after a s (before ++ [.dialogLine l])).cueOn a s l := by
  rw [← lastCue_line, List.append_cons, after_append, lastCue_hear_all _ hrest]

end VoiceTracker

theorem Numbered.unique {key : String} {before : List Notification} {l : DialogLine} {m n : Nat}
    (hm : Numbered s key before l m) (hn : Numbered s key before l n) : m = n := by
  cases hm with
  | authored hm =>
    cases hn with
    | authored hn => exact Int.ofNat.inj (Option.some.inj (hm.symm.trans hn))
    | counted hnone => exact absurd (hnone _ hm) (by omega)
  | counted hnone =>
    cases hn with
    | authored hn => exact absurd (hnone _ hn) (by omega)
    | counted => rfl

/-- **There is one cue of the last line.** -/
theorem LastCue.eq_after (h : LastCue a s ns cue) : (VoiceTracker.after a s ns).lastCue = cue := by
  cases h with
  | lineless hns => exact VoiceTracker.lastCue_hear_all .start hns
  | unvoiced hrest hkey =>
    rw [VoiceTracker.lastCue_after _ _ hrest, VoiceTracker.cueOn, Speakers.voiceKey_eq_none_iff.2 hkey]
    rfl
  | @voiced before rest l key number hrest hkey hnumber =>
    have hgiven := (VoiceTracker.numbered (a := a) before l key).unique hnumber
    rw [VoiceTracker.lastCue_after _ _ hrest, VoiceTracker.cueOn, Speakers.voiceKey_eq_some_iff.2 hkey,
      Option.map_some, hgiven]
    rfl

end Tracker

/-! ## Numbers that do not run over -/

/-- fewer than 2^32 lines of a key come between resets, and authored numbers are of 32 bits with a sign -/
structure Speakers.Within (s : Speakers) (ns : List Notification) : Prop where
  counts : ∀ before rest, ns = before ++ rest → ∀ key, (sinceReset before).countP (s.voices key) < 2 ^ 32
  numbers : ∀ l number, .dialogLine l ∈ ns → l.lineNumber = some number → number < 2 ^ 31

/-- a history shorter than that is within 32 bits -/
theorem Speakers.within_of_length {s : Speakers} {ns : List Notification} (hlength : ns.length < 2 ^ 32)
    (hnumbers : ∀ l number, .dialogLine l ∈ ns → l.lineNumber = some number → number < 2 ^ 31) : s.Within ns where
  counts := by
    rintro before rest rfl key
    have hcount : (sinceReset before).countP (s.voices key) ≤ (sinceReset before).length := List.countP_le_length
    have hsince : (sinceReset before).length ≤ before.length := by
      simpa [sinceReset] using (List.takeWhile_sublist _ (l := before.reverse)).length_le
    rw [List.length_append] at hlength
    omega
  numbers := hnumbers

theorem LastCue.line_lt {a : Assets} {s : Speakers} {ns : List Notification} {cue : VoiceCue} (hns : s.Within ns)
    (h : LastCue a s ns (some cue)) : cue.line < 2 ^ 32 := by
  cases h with
  | @voiced before rest l key number hrest hkey hnumber =>
    cases hnumber with
    | authored hnumber =>
      have := hns.numbers l _ (List.mem_append_right before List.mem_cons_self) hnumber
      change number < 2 ^ 32
      omega
    | counted => exact hns.counts (before ++ [.dialogLine l]) rest (by simp) key

/-- counters of 32 bits do not run over -/
theorem VoiceTracker.count_lt {a : Assets} {s : Speakers} {ns : List Notification} (hns : s.Within ns) (key : String) :
    (after a s ns).count key < 2 ^ 32 := by
  rw [count_after]
  exact hns.counts ns [] (List.append_nil ns).symm key

/-- the blocks of lines, counted from one, are sizes -/
def Placed (ns : List Notification) : Prop := ∀ l, .dialogLine l ∈ ns → l.blockIndex + 1 ≤ Text.sizeMax

theorem LastCue.event_placed {a : Assets} {s : Speakers} {ns : List Notification} {cue : VoiceCue} (hns : Placed ns)
    (h : LastCue a s ns (some cue)) :
    ∃ blockIndex, blockIndex + 1 ≤ Text.sizeMax ∧ cue.event = eventName blockIndex := by
  cases h with
  | @voiced before rest l key number =>
    have hl : .dialogLine l ∈ before ++ .dialogLine l :: rest := List.mem_append_right before List.mem_cons_self
    exact ⟨l.blockIndex, hns l hl, rfl⟩

/-! ## Requests -/

/-- what a tracker is asked: to hear a notification, or for the cue of a line once more -/
inductive VoiceRequest where
  | hear (notification : Notification)
  | replay (speech : Speech) (blockIndex : Nat) (lineNumber : Option Int)
  deriving DecidableEq, Repr

namespace VoiceRequest

/-- the notification of a request -/
def notification? : VoiceRequest → Option Notification
  | hear n => some n
  | replay .. => none

/-- what requests tell the tracker, in order -/
def told (requests : List VoiceRequest) : List Notification := requests.filterMap notification?

end VoiceRequest

namespace VoiceTracker

/-- a request: the cue if one was asked for, and the tracker after it -/
def respond (a : Assets) (s : Speakers) (t : VoiceTracker) : VoiceRequest → Option VoiceCue × VoiceTracker
  | .hear n => (none, t.hear a s n)
  | .replay speech blockIndex lineNumber => (t.replay a s speech blockIndex lineNumber, t)

/-- the tracker after requests, from the start -/
def served (a : Assets) (s : Speakers) (requests : List VoiceRequest) : VoiceTracker :=
  requests.foldl (fun t request => (t.respond a s request).2) start

theorem served_eq (a : Assets) (s : Speakers) (requests : List VoiceRequest) :
    served a s requests = after a s (VoiceRequest.told requests) := by
  unfold served after
  generalize start = t
  induction requests generalizing t with
  | nil => rfl
  | cons request requests ih =>
    cases request with
    | hear n => exact ih (t.hear a s n)
    | replay speech blockIndex lineNumber => exact ih t

end VoiceTracker

/-- **Counters and cues follow the lines that were told.** After any requests from the start a counter stands at the lines
of its key since the last reset, and the last cue is that of the last line, with none where that was not voiced. Only
lines and resets change the tracker, and a reset its counters alone. Numbers stay within 32 bits while lines and authored
numbers do, and the position in the name of an event is a size while lines are placed at sizes. -/
theorem tracker_follows_lines (a : Assets) (s : Speakers) (requests : List VoiceRequest) :
    let t := VoiceTracker.served a s requests
    let ns := VoiceRequest.told requests
    (∀ key, t.count key = (sinceReset ns).countP (s.voices key)) ∧
    (∀ key n, s.voices key n ↔ ∃ l, n = .dialogLine l ∧ s.VoicedAs l.speech.speaker key) ∧
    (∀ cue, LastCue a s ns cue ↔ t.lastCue = cue) ∧
    (∀ u n, (∀ l, n ≠ .dialogLine l) → (VoiceTracker.hear a s u n).lastCue = u.lastCue ∧
      (n ≠ .resetLineCounters → VoiceTracker.hear a s u n = u)) ∧
    (s.Within ns → (∀ key, t.count key < 2 ^ 32) ∧ ∀ cue, t.lastCue = some cue → cue.line < 2 ^ 32) ∧
    (Placed ns → ∀ cue, t.lastCue = some cue →
      ∃ blockIndex, blockIndex + 1 ≤ Text.sizeMax ∧ cue.event = eventName blockIndex) := by
  intro t ns
  have ht : t = VoiceTracker.after a s ns := VoiceTracker.served_eq a s requests
  rw [ht]
  have hlast : LastCue a s ns (VoiceTracker.after a s ns).lastCue := VoiceTracker.after_lastCue ns
  refine ⟨VoiceTracker.count_after ns, fun key n => Speakers.voices_iff, fun cue => ⟨LastCue.eq_after, ?_⟩,
    fun u n hn => ⟨u.lastCue_hear hn, u.hear_other hn⟩, fun hns => ⟨VoiceTracker.count_lt hns, fun cue hcue => ?_⟩,
    fun hns cue hcue => ?_⟩
  · rintro rfl
    exact hlast
  · rw [hcue] at hlast
    exact hlast.line_lt hns
  · rw [hcue] at hlast
    exact hlast.event_placed hns

/-- two speakers who share a key, and one who is silent -/
def duet : Speakers := ⟨["Ann", "Bob", "Cid"], [("Ann", "A"), ("Bob", "A"), ("Cid", "C")], ["Cid"]⟩

/-- a line of one of them -/
def duetLine (speaker : String) (number : Option Int) : DialogLine := ⟨⟨speaker, "…", .display⟩, 2, number⟩

/-- three lines of the shared key, with no number, an authored one and a negative one; a replay and a reset -/
def duetRequests : List VoiceRequest :=
  [.hear (.dialogLine (duetLine "Ann" none)), .hear (.dialogLine (duetLine "Bob" (some 12))),
    .replay (duetLine "Bob" none).speech 2 none, .hear (.dialogLine (duetLine "Ann" (some (-1)))),
    .hear .resetLineCounters]

/-- the last cue outlives the reset, under the number that its counter had -/
theorem duet_last_cue :
    LastCue .standard duet (VoiceRequest.told duetRequests) (some (.make .standard "A" 2 3)) ∧
    (VoiceTracker.served .standard duet duetRequests).count "A" = 0 ∧
    duet.Within (VoiceRequest.told duetRequests) ∧ (VoiceCue.make .standard "A" 2 3).line < 2 ^ 32 ∧
    Placed (VoiceRequest.told duetRequests) ∧
    (∃ blockIndex, blockIndex + 1 ≤ Text.sizeMax ∧ (VoiceCue.make .standard "A" 2 3).event = eventName blockIndex) ∧
    (∀ l, Notification.decision ["on"] ≠ .dialogLine l) ∧
    VoiceTracker.hear .standard duet ⟨[("A", 3)], none⟩ (.decision ["on"]) = ⟨[("A", 3)], none⟩ := by
  obtain ⟨hcount, -, hcue, hother, hfits, hevents⟩ := tracker_follows_lines .standard duet duetRequests
  have hlines : ∀ l, .dialogLine l ∈ VoiceRequest.told duetRequests →
      l = duetLine "Ann" none ∨ l = duetLine "Bob" (some 12) ∨ l = duetLine "Ann" (some (-1)) := by
    intro l hl
    simpa only [VoiceRequest.told, duetRequests, VoiceRequest.notification?, List.filterMap_cons, List.filterMap_nil,
      List.mem_cons, List.not_mem_nil, Notification.dialogLine.injEq, reduceCtorEq, or_false, false_or] using hl
  have hwithin : duet.Within (VoiceRequest.told duetRequests) := by
    refine Speakers.within_of_length (by decide) fun l number hl hnumber => ?_
    rcases hlines l hl with rfl | rfl | rfl <;> cases hnumber <;> decide
  have hplaced : Placed (VoiceRequest.told duetRequests) := by
    intro l hl
    rcases hlines l hl with rfl | rfl | rfl <;> decide
  exact ⟨(hcue _).2 rfl, hcount "A", hwithin, (hfits hwithin).2 _ rfl, hplaced, hevents hplaced _ rfl, fun _ => nofun,
    (hother ⟨[("A", 3)], none⟩ (.decision ["on"]) fun _ => nofun).2 nofun⟩

end VisualNovel
