/-
The voice of the line on screen.

The tracker gives a line its cue when it hears the line; asked later, it finds the cue again from the counter of the
voice key, which stands where the line left it.

- `lineOnScreen`: the instruction executed last, if it is a line. A call of the walk tells it last of all, or leaves
  none, or tells nothing and leaves the one that was there (`Sound.onScreen`).
- `Tracks`: the last cue of the tracker is the cue of the line on screen, and its key has been counted. Every call of
  the engine keeps this (`perform_tracks`), so a replay finds the last cue (`replayVoice_onScreen`).
- `count_hear_all`: a counter stands at the lines of its key told since the last reset, with what it stood at before if
  there was none.
-/
import VisualNovel.Proofs.Delivery

namespace VisualNovel

/-! ## The line on screen -/

/-- the instruction executed last, if it is a line -/
def Setting.lineOnScreen (s : Setting) (h : Playhead) : Option DialogLine :=
  match s.lastExecuted h with
  | some (r, _) => if r.kind = .playDialog then some (s.lineOf r h) else none
  | none => none

section OnScreen

variable {s : Setting} {h g : Playhead} {ns : List Notification}

theorem Setting.lineOnScreen_line {r : Resolved} {es : List Event} (hlast : s.lastExecuted h = some (r, es))
    (hkind : r.kind = .playDialog) : s.lineOnScreen h = some (s.lineOf r h) := by
  simp only [lineOnScreen, hlast, if_pos hkind]

theorem Setting.lineOnScreen_other {c : Cursor} {i : Instruction} (hlast : h.lastExecuted = some c)
    (hi : s.screenplay.instructionAt c = .ok i) (hkind : i.kind ≠ .playDialog) : s.lineOnScreen h = none := by
  simp only [lineOnScreen, lastExecuted, hlast, hi]
  exact if_neg hkind

theorem Setting.lineOnScreen_fresh (s : Setting) (c : Cursor) : s.lineOnScreen (.fresh c) = none := rfl

/-- what a call leaves on screen, with what it tells -/
inductive OnScreen (s : Setting) (h g : Playhead) : List Notification → Prop where
  /-- a line that is told last -/
  | told {l : DialogLine} (ns : List Notification) (hline : s.lineOnScreen g = some l) :
    OnScreen s h g (ns ++ [.dialogLine l])
  /-- no line -/
  | cleared {ns : List Notification} (hline : s.lineOnScreen g = none) : OnScreen s h g ns
  /-- what was there before -/
  | kept (hline : s.lineOnScreen g = s.lineOnScreen h) : OnScreen s h g []

theorem Runs.onScreen {budget : Nat} {answer : Except WalkError Suspension} (hbudget : 0 < budget)
    (hruns : Runs s budget h answer g ns) :
    s.lineOnScreen g = none ∨ ∃ l ms, s.lineOnScreen g = some l ∧ ns = ms ++ [.dialogLine l] := by
  cases hruns with
  | @line g rs i next hrs hi hkind =>
    have hline := s.lineOnScreen_line (s.lastExecuted_past hi next) hkind
    exact Or.inr ⟨_, rs.map .instruction ++ [.instruction (s.reading i)], hline, by simp⟩
  | decision hrs hi hkind => exact Or.inl (s.lineOnScreen_other rfl hi (by simp [hkind]))
  | ended hrs hi hsilent => exact Or.inl (s.lineOnScreen_other rfl hi hsilent.1)
  | @runaway g rs hrs hlength =>
    have hne : rs ≠ [] := List.ne_nil_of_length_pos (by omega)
    obtain ⟨-, c, i, hlast, hi, hsilent⟩ := hrs.last hne
    exact Or.inl (s.lineOnScreen_other hlast hi hsilent.1)

theorem Advances.onScreen {choice : Option Nat} {answer : Except WalkError Suspension} (hs : Sound s h)
    (ha : Advances s h choice answer g ns) : OnScreen s h g ns := by
  cases ha with
  | refused => exact .kept rfl
  | exhausted => exact .kept rfl
  | ran _ hruns =>
    rcases hruns.onScreen s.limit_pos with hline | ⟨l, ms, hline, rfl⟩
    · exact .cleared hline
    · exact .told ms hline
  | chose _ _ hruns =>
    rcases hruns.onScreen s.limit_pos with hline | ⟨l, ms, hline, rfl⟩
    · exact .cleared hline
    · exact .told (.resetLineCounters :: ms) hline
  | choseEnd hd hnext =>
    obtain ⟨-, -, -, i, hi, hkind, -⟩ := hs.waits _ hd
    exact .cleared (s.lineOnScreen_other rfl hi (by simp [hkind]))

/-- **What a call of the walk leaves on screen.** -/
theorem Sound.onScreen (hs : Sound s h) (call : Call) :
    OnScreen s h (s.perform call h).head (Event.notifications (s.perform call h).events) := by
  cases call with
  | advance choice => exact (hs.advances choice).onScreen hs
  | restore state =>
    rcases s.restore_cases state h with ⟨i, es, -, ht, -⟩ | ⟨e, es, -, ht, hes⟩
    · simp only [Setting.perform, ht]
      exact .cleared (s.lineOnScreen_fresh _)
    · simp only [Setting.perform, ht, hes]
      exact .kept rfl

end OnScreen

/-! ## Counters -/

/-- a line of a voice key -/
def Speakers.voices (s : Speakers) (key : String) : Notification → Bool
  | .dialogLine l => s.voiceKey l.speech.speaker = some key
  | _ => false

/-- what was told after the last reset -/
def sinceReset (ns : List Notification) : List Notification :=
  (ns.reverse.takeWhile (· ≠ .resetLineCounters)).reverse

theorem sinceReset_reset (ns : List Notification) : sinceReset (ns ++ [.resetLineCounters]) = [] := by
  simp [sinceReset]

theorem sinceReset_concat (ns : List Notification) {n : Notification} (hn : n ≠ .resetLineCounters) :
    sinceReset (ns ++ [n]) = sinceReset ns ++ [n] := by
  simp [sinceReset, hn]

theorem VoiceTracker.count_speak (a : Assets) (s : Speakers) (t : VoiceTracker) (l : DialogLine) (key : String) :
    (t.speak a s l).count key = t.count key + if s.voiceKey l.speech.speaker = some key then 1 else 0 := by
  unfold speak
  cases s.voiceKey l.speech.speaker with
  | none => rfl
  | some key' =>
    simp only [Option.some.injEq, eq_comm (a := key')]
    exact t.count_bump key' key

theorem VoiceTracker.count_hear (a : Assets) (s : Speakers) (t : VoiceTracker) {n : Notification}
    (hn : n ≠ .resetLineCounters) (key : String) :
    (t.hear a s n).count key = t.count key + if s.voices key n then 1 else 0 := by
  cases n with
  | dialogLine l =>
    simp only [hear, Speakers.voices, decide_eq_true_eq]
    exact t.count_speak a s l key
  | resetLineCounters => contradiction
  | _ => rfl

/-- **What a counter stands at.** -/
theorem VoiceTracker.count_hear_all (a : Assets) (s : Speakers) (t : VoiceTracker) (ns : List Notification)
    (key : String) : (ns.foldl (hear a s) t).count key =
      (if .resetLineCounters ∈ ns then 0 else t.count key) + (sinceReset ns).countP (s.voices key) := by
  -- from the right, because a reset at the end wipes out everything before it
  induction ns using List.reverseRecOn with
  | nil => rfl
  | append_singleton ns n ih =>
    rw [List.foldl_append, List.foldl_cons, List.foldl_nil]
    by_cases hn : n = .resetLineCounters
    · subst hn
      rw [sinceReset_reset, if_pos (List.mem_append_right ns (List.mem_singleton_self _))]
      rfl
    · have hmem : .resetLineCounters ∈ ns ++ [n] ↔ .resetLineCounters ∈ ns := by simp [Ne.symm hn]
      rw [count_hear a s _ hn, ih, sinceReset_concat ns hn, List.countP_append]
      simp only [hmem, List.countP_singleton, Nat.add_assoc]

theorem Production.count_heardBy (p : Production) (t : VoiceTracker) (ns : List Notification) (key : String) :
    (p.heardBy t ns).count key =
      (if .resetLineCounters ∈ ns then 0 else t.count key) + (sinceReset ns).countP (p.speakers.voices key) :=
  t.count_hear_all p.assets p.speakers ns key

/-! ## The tracker and the line on screen -/

/-- the cue of a line for a tracker that has heard it -/
def VoiceTracker.cueOn (a : Assets) (s : Speakers) (t : VoiceTracker) (l : DialogLine) : Option VoiceCue :=
  (s.voiceKey l.speech.speaker).map fun key =>
    .make a key l.blockIndex ((authoredNumber l.lineNumber).getD (t.count key))

/-- the last cue of a tracker is that of a line, and the key of the line has been counted -/
structure VoiceTracker.Heard (a : Assets) (s : Speakers) (t : VoiceTracker) (l : DialogLine) : Prop where
  cue : t.lastCue = t.cueOn a s l
  counted : ∀ key, s.voiceKey l.speech.speaker = some key → t.count key ≠ 0

theorem VoiceTracker.speak_heard (a : Assets) (s : Speakers) (t : VoiceTracker) (l : DialogLine) :
    (t.speak a s l).Heard a s l := by
  cases hkey : s.voiceKey l.speech.speaker with
  | none =>
    refine ⟨?_, by simp [hkey]⟩
    simp only [speak, cueOn, hkey]
    rfl
  | some key =>
    refine ⟨?_, ?_⟩
    · simp only [speak, cueOn, hkey]
      rfl
    · intro key' hkey'
      rw [count_speak, if_pos hkey']
      exact Nat.succ_ne_zero _

theorem VoiceTracker.Heard.replay {a : Assets} {s : Speakers} {t : VoiceTracker} {l : DialogLine}
    (ht : t.Heard a s l) : t.replay a s l.speech l.blockIndex l.lineNumber = t.lastCue := by
  rw [ht.cue]
  unfold VoiceTracker.replay cueOn
  cases hkey : s.voiceKey l.speech.speaker with
  | none => rfl
  | some key =>
    cases authoredNumber l.lineNumber with
    | some number => rfl
    | none => exact if_neg (ht.counted key hkey)

/-- the tracker of an engine has heard the line on screen last -/
def Tracks (p : Production) (e : Engine) : Prop :=
  ∀ l, p.setting.lineOnScreen e.head = some l → e.voice.Heard p.assets p.speakers l

namespace Production

variable {p : Production} {e : Engine}

theorem heard_tracks (hs : Sound p.setting e.head) (he : Tracks p e) (call : Call) :
    Tracks p (p.heard e (p.setting.perform call e.head)) := by
  intro l hl
  have hscreen := hs.onScreen call
  unfold heard hear at hl ⊢
  generalize (p.setting.perform call e.head).head = g at hscreen hl
  generalize Event.notifications (p.setting.perform call e.head).events = ns at hscreen ⊢
  cases hscreen with
  | told ms hline =>
    cases hline.symm.trans hl
    simp only [List.foldl_append]
    exact VoiceTracker.speak_heard p.assets p.speakers _ l
  | cleared hline => cases hline.symm.trans hl
  | kept hline => exact he l (hline.symm.trans hl)

/-- **A call keeps the tracker on the line on screen.** -/
theorem perform_tracks (hs : Sound p.setting e.head) (he : Tracks p e) (call : EngineCall) :
    Tracks p (p.perform call e).engine :=
  perform_keeps he (heard_tracks hs he call.walk) fun _ hf => hf

theorem after_start_tracks (p : Production) (calls : List EngineCall) : Tracks p (p.after calls .start) :=
  after_keeps (e := .start) perform_tracks (.start p.setting) (by rintro l ⟨⟩) calls

/-- a replay finds the last cue -/
theorem replayVoice_onScreen (he : Tracks p e) : (p.replayVoice e).1 =
    (p.setting.lineOnScreen e.head).bind fun _ => e.voice.lastCue := by
  unfold Tracks Setting.lineOnScreen at he
  unfold replayVoice Setting.lineOnScreen
  cases hlast : p.setting.lastExecuted e.head with
  | none => rfl
  | some last =>
    obtain ⟨r, es⟩ := last
    simp only [hlast] at he ⊢
    by_cases hkind : r.kind = .playDialog
    · simp only [hkind, if_true, Option.bind_some]
      exact (he (p.setting.lineOf r e.head) (if_pos hkind)).replay
    · rw [if_neg hkind]
      split
      · contradiction
      · rfl

end Production

end VisualNovel
