/-
The files of voice cues.

A voice file is named by key, event and line number. The key may be any text, with dots, digits and whole event names in
it, and the numbers grow beyond the width that they are filled up to, so from the left nothing tells where the key ends.
From the right it can be told: a number reaches back to the last character that is no digit.

- `append_mark_inj`, `append_padded_inj`: a text is cut in one way at the last place of a mark, so a padded number and
  the text before its mark are determined.
- `Assets.voice_inj`: two files are the same when the line number is and what stands before it, whatever the events are;
  `key_eventName_inj` cuts the event of a block off in the same manner.
- `VoiceTracker.Gives`: a cue that a tracker has given after some requests. All of them are cues of a key, a block and a
  number (`VoiceTracker.Gives.made`).
- `no_shared_voice_file`: under one base directory a file belongs to one key, one block and one line. Two cues with one
  file are the same cue, even when different trackers gave them.

Blocks and numbers may be of any size here; `Speakers.Within` and `Placed` tell which histories keep them within the
widths that counters and positions have.
-/
import VisualNovel.Proofs.Cues

namespace VisualNovel

/-! ## Reading from the right -/

namespace Text

variable {c : Char} {xs ys ds es : List Char}

/-- what stands behind the last place of a mark cannot begin before it -/
theorem eq_of_cons_eq_append_mark {between : List Char} (hds : c ∉ ds) (h : c :: ds = between ++ c :: es) :
    between = [] ∧ ds = es := by
  cases between with
  | nil => exact ⟨rfl, (List.cons.inj h).2⟩
  | cons b between =>
    -- then the second mark would stand behind the first one
    have hmem : c ∈ ds := by
      rw [(List.cons.inj h).2]
      exact List.mem_append_right between List.mem_cons_self
    exact absurd hmem hds

/-- **A text is cut in one way at the last place of a mark.** -/
theorem append_mark_inj (hds : c ∉ ds) (hes : c ∉ es) : xs ++ c :: ds = ys ++ c :: es ↔ xs = ys ∧ ds = es := by
  constructor
  · intro h
    -- one of the marks comes first, and it is the last one of its text
    rcases List.append_eq_append_iff.1 h with ⟨between, hys, hrest⟩ | ⟨between, hxs, hrest⟩
    · obtain ⟨rfl, hend⟩ := eq_of_cons_eq_append_mark hds hrest
      exact ⟨by rw [hys, List.append_nil], hend⟩
    · obtain ⟨rfl, hend⟩ := eq_of_cons_eq_append_mark hes hrest
      exact ⟨by rw [hxs, List.append_nil], hend.symm⟩
  · rintro ⟨rfl, rfl⟩
    rfl

theorem notMem_padded (hc : c.isDigit = false) (width n : Nat) : c ∉ padded width n := by
  intro hmem
  have hdigit : c.isDigit = true := isDigit_of_mem_padded hmem
  exact Bool.false_ne_true (hc.symm.trans hdigit)

/-- behind a mark that is no digit a padded number is determined, however long it is -/
theorem append_padded_inj (hc : c.isDigit = false) {width m n : Nat} :
    xs ++ c :: padded width m = ys ++ c :: padded width n ↔ xs = ys ∧ m = n := by
  rw [append_mark_inj (notMem_padded hc width m) (notMem_padded hc width n), padded_inj]

end Text

/-! ## Files -/

section Files

variable {a : Assets} {k₁ k₂ : String}

/-- **The line number ends at its dot**, and what stands before the dot is key and event. -/
theorem Assets.voice_inj {e₁ e₂ : String} {l₁ l₂ : Nat} :
    a.voice k₁ e₁ l₁ = a.voice k₂ e₂ l₂ ↔ k₁ ++ "." ++ e₁ = k₂ ++ "." ++ e₂ ∧ l₁ = l₂ := by
  have hfile : ∀ k e l, (a.voice k e l).toList =
      ((a.baseDir ++ "/audio/voice/" ++ (k ++ "." ++ e)).toList ++ '.' :: Text.padded 3 l) ++ ".ogg".toList := by
    intro k e l
    simp [voice]
  rw [← String.toList_inj, hfile, hfile, List.append_left_inj, Text.append_padded_inj (by decide), String.toList_inj,
    String.append_right_inj]

/-- **The number of a block ends at the letter before it**, and what stands before its event is the key. -/
theorem key_eventName_inj {b₁ b₂ : Nat} :
    k₁ ++ "." ++ eventName b₁ = k₂ ++ "." ++ eventName b₂ ↔ k₁ = k₂ ∧ b₁ = b₂ := by
  have hname : ∀ k b, (k ++ "." ++ eventName b).toList = (k ++ ".RE").toList ++ 'N' :: Text.padded 4 (b + 1) := by
    intro k b
    simp [eventName]
  rw [← String.toList_inj, hname, hname, Text.append_padded_inj (by decide), String.toList_inj,
    String.append_left_inj, Nat.add_right_cancel_iff]

/-- **The file of a cue tells its key, its block and its line.** -/
theorem VoiceCue.make_path_inj {b₁ b₂ l₁ l₂ : Nat} :
    (VoiceCue.make a k₁ b₁ l₁).path = (VoiceCue.make a k₂ b₂ l₂).path ↔ k₁ = k₂ ∧ b₁ = b₂ ∧ l₁ = l₂ := by
  calc (VoiceCue.make a k₁ b₁ l₁).path = (VoiceCue.make a k₂ b₂ l₂).path
      ↔ k₁ ++ "." ++ eventName b₁ = k₂ ++ "." ++ eventName b₂ ∧ l₁ = l₂ := Assets.voice_inj
    _ ↔ (k₁ = k₂ ∧ b₁ = b₂) ∧ l₁ = l₂ := by rw [key_eventName_inj]
    _ ↔ k₁ = k₂ ∧ b₁ = b₂ ∧ l₁ = l₂ := and_assoc

end Files

/-! ## Cues of trackers -/

theorem LastCue.made {a : Assets} {s : Speakers} {ns : List Notification} {cue : VoiceCue}
    (h : LastCue a s ns (some cue)) : ∃ key blockIndex line, cue = .make a key blockIndex line := by
  cases h with
  | @voiced before rest l key number => exact ⟨key, l.blockIndex, number, rfl⟩

namespace VoiceTracker

/-- a cue that a tracker gives after requests: that of its last line, or one that it is asked for -/
inductive Gives (a : Assets) (s : Speakers) (requests : List VoiceRequest) (cue : VoiceCue) : Prop where
  | last (h : (served a s requests).lastCue = some cue)
  | asked (request : VoiceRequest) (h : ((served a s requests).respond a s request).1 = some cue)

variable {a : Assets} {s : Speakers} {requests : List VoiceRequest} {cue : VoiceCue}

theorem replay_made {t : VoiceTracker} {speech : Speech} {blockIndex : Nat} {lineNumber : Option Int}
    (h : t.replay a s speech blockIndex lineNumber = some cue) : ∃ key line, cue = .make a key blockIndex line := by
  unfold replay at h
  split at h
  · contradiction
  · rename_i key hkey
    split at h
    · rename_i number hnumber
      exact ⟨key, number, (Option.some.inj h).symm⟩
    · split_ifs at h
      exact ⟨key, t.count key, (Option.some.inj h).symm⟩

/-- **Every cue of a tracker is the cue of a key, a block and a number.** -/
theorem Gives.made (h : Gives a s requests cue) : ∃ key blockIndex line, cue = .make a key blockIndex line := by
  cases h with
  | last hlast =>
    rw [served_eq] at hlast
    have hcue : LastCue a s (VoiceRequest.told requests) (some cue) := hlast ▸ after_lastCue _
    exact hcue.made
  | asked request hasked =>
    cases request with
    | hear n => contradiction
    | replay speech blockIndex lineNumber =>
      obtain ⟨key, line, hmade⟩ := replay_made hasked
      exact ⟨key, blockIndex, line, hmade⟩

end VoiceTracker

/-- **No two cues share a file.** Under one base directory, whatever the keys are and however large the numbers, a file is
the file of one key, one block and one line. So the cues that trackers give, each after its own requests and for its own
speakers, have one file only when they are one cue. -/
theorem no_shared_voice_file (a : Assets) :
    (∀ k₁ k₂ b₁ b₂ l₁ l₂, a.voice k₁ (eventName b₁) l₁ = a.voice k₂ (eventName b₂) l₂ ↔
      k₁ = k₂ ∧ b₁ = b₂ ∧ l₁ = l₂) ∧
    ∀ s₁ s₂ requests₁ requests₂ cue₁ cue₂, VoiceTracker.Gives a s₁ requests₁ cue₁ →
      VoiceTracker.Gives a s₂ requests₂ cue₂ → (cue₁.path = cue₂.path ↔ cue₁ = cue₂) := by
  constructor
  · intro k₁ k₂ b₁ b₂ l₁ l₂
    exact VoiceCue.make_path_inj
  · intro s₁ s₂ requests₁ requests₂ cue₁ cue₂ h₁ h₂
    obtain ⟨k₁, b₁, l₁, rfl⟩ := h₁.made
    obtain ⟨k₂, b₂, l₂, rfl⟩ := h₂.made
    constructor
    · intro hpath
      obtain ⟨rfl, rfl, rfl⟩ := VoiceCue.make_path_inj.1 hpath
      rfl
    · intro hcue
      rw [hcue]

/-- a key that holds a whole event, beside numbers longer than their width; and of a duet the first line of the shared key
beside its twelfth, which is asked for once more -/
theorem duet_files_apart :
    Assets.standard.voice "A" (eventName 9999) 1000 ≠ Assets.standard.voice "A.REN10000" (eventName 0) 1000 ∧
    VoiceTracker.Gives .standard duet (duetRequests.take 1) (.make .standard "A" 2 1) ∧
    VoiceTracker.Gives .standard duet duetRequests (.make .standard "A" 2 12) ∧
    (VoiceCue.make .standard "A" 2 1).path ≠ (VoiceCue.make .standard "A" 2 12).path := by
  obtain ⟨hfiles, hcues⟩ := no_shared_voice_file .standard
  have hfirst : VoiceTracker.Gives .standard duet (duetRequests.take 1) (.make .standard "A" 2 1) := .last rfl
  have htwelfth : VoiceTracker.Gives .standard duet duetRequests (.make .standard "A" 2 12) :=
    .asked (.replay (duetLine "Bob" none).speech 2 (some 12)) rfl
  refine ⟨?_, hfirst, htwelfth, ?_⟩
  · intro hfile
    exact absurd ((hfiles _ _ _ _ _ _).1 hfile).1 (by decide)
  · intro hpath
    have hcue := (hcues _ _ _ _ _ _ hfirst htwelfth).1 hpath
    exact absurd (congrArg VoiceCue.line hcue) (by decide)

end VisualNovel
