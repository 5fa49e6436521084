/-
Voices. A line is voiced when its speaker has a voice key and is not silent. The file is named by the key, the event of
the line's block and a line number: the authored one, or else how many lines of that key were voiced since line counters
were last reset (`VoiceTracker.hear`). Counting goes on under authored numbers as well, a choice resets the counters, and
the cue of the last line stays until the next line. `VoiceTracker.replay` gives the cue of a line once more without
counting it.

Counters have 32 bits. They are natural numbers here and do not run over, so what is said of them holds while fewer than
2^32 lines of a key come between two resets.
-/
import VisualNovel.Assets
import VisualNovel.Log
import VisualNovel.Notification

namespace VisualNovel

/-- who may speak and how their voices are found -/
structure Speakers where
  /-- names that are accepted as speakers -/
  allowed : List String
  /-- voice keys by name; no name twice -/
  voiceKeys : List (String × String)
  /-- names that are never voiced -/
  silent : List String
  deriving DecidableEq, Repr

namespace Speakers

/-- nobody speaks, and the protagonist would be silent -/
def standard : Speakers := ⟨[], [], ["祐二"]⟩

/-- the names as a roster -/
def roster (s : Speakers) : Roster := ⟨s.allowed⟩

/-- the voice key of a speaker; silent and unknown speakers have none, nor has narration -/
def voiceKey (s : Speakers) (speaker : String) : Option String :=
  if speaker = "" ∨ speaker ∈ s.silent then none else s.voiceKeys.lookup speaker

end Speakers

/-- the voice of one line -/
structure VoiceCue where
  key : String
  event : String
  line : Nat
  path : String
  deriving DecidableEq, Repr

/-- the cue for a key, a block and a line number -/
def VoiceCue.make (a : Assets) (key : String) (blockIndex line : Nat) : VoiceCue :=
  ⟨key, eventName blockIndex, line, a.voice key (eventName blockIndex) line⟩

/-- an authored line number; a negative one counts as none -/
def authoredNumber : Option Int → Option Nat
  | some n => if 0 ≤ n then some n.toNat else none
  | none => none

/-- lines voiced per key since the last reset, and the cue of the last line -/
structure VoiceTracker where
  counters : List (String × Nat)
  lastCue : Option VoiceCue
  deriving DecidableEq, Repr

namespace VoiceTracker

/-- nothing voiced yet -/
def start : VoiceTracker := ⟨[], none⟩

/-- lines voiced for a key since the last reset -/
def count (t : VoiceTracker) (key : String) : Nat := (t.counters.lookup key).getD 0

/-- counters with one more line for a key -/
def bump (key : String) : List (String × Nat) → List (String × Nat)
  | [] => [(key, 1)]
  | (k, n) :: rest => if k = key then (k, n + 1) :: rest else (k, n) :: bump key rest

/-- count a line and set its cue -/
def speak (a : Assets) (s : Speakers) (t : VoiceTracker) (l : DialogLine) : VoiceTracker :=
  match s.voiceKey l.speech.speaker with
  | none => { t with lastCue := none }
  | some key =>
    let counted : VoiceTracker := { t with counters := bump key t.counters }
    let number := (authoredNumber l.lineNumber).getD (counted.count key)
    { counted with lastCue := some (.make a key l.blockIndex number) }

/-- line counters start over -/
def reset (t : VoiceTracker) : VoiceTracker := { t with counters := [] }

/-- the tracker after a notification -/
def hear (a : Assets) (s : Speakers) (t : VoiceTracker) : Notification → VoiceTracker
  | .dialogLine l => t.speak a s l
  | .resetLineCounters => t.reset
  | .instruction _ | .decision _ | .restoreGraphics .. | .restoreMusic _ => t

/-- what the tracker logs about a notification -/
def remarks (a : Assets) (s : Speakers) (t : VoiceTracker) : Notification → List Record
  | .dialogLine l => ((t.speak a s l).lastCue.map fun cue => .voiced cue.path).toList
  | .resetLineCounters => [.countersReset t.counters.length]
  | _ => []

/-- the cue of a line that was counted before -/
def replay (a : Assets) (s : Speakers) (t : VoiceTracker) (speech : Speech) (blockIndex : Nat)
    (lineNumber : Option Int) : Option VoiceCue :=
  match s.voiceKey speech.speaker with
  | none => none
  | some key =>
    match authoredNumber lineNumber with
    | some number => some (.make a key blockIndex number)
    | none => if t.count key = 0 then none else some (.make a key blockIndex (t.count key))

theorem count_bump (t : VoiceTracker) (key k : String) :
    count { t with counters := bump key t.counters } k = t.count k + if k = key then 1 else 0 := by
  obtain ⟨counters, cue⟩ := t
  simp only [count]
  induction counters with
  | nil =>
    by_cases h : k = key
    · subst h; simp [bump]
    · simp [bump, List.lookup_cons, beq_false_of_ne h, h]
  | cons p rest ih =>
    obtain ⟨k', n⟩ := p
    by_cases h' : k' = key <;> by_cases h : k = k'
    · subst h' h; simp [bump]
    · subst h'; simp [bump, List.lookup_cons, beq_false_of_ne h, h]
    · subst h; simp [bump, h']
    · simp [bump, List.lookup_cons, beq_false_of_ne h, h', ih]

end VoiceTracker

end VisualNovel
