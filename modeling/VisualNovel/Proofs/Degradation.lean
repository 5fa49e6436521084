/-
The list of tokens that refer to nothing, and what a run makes of them.

The list is made once, over all blocks, instructions and tokens, and names a block by its id; a run meets instructions in
whatever order choices, cycles and saves take it there, by the position of their block, and records each token that it
has to show as it is. `Setting.executed` are the playheads at which a call executes an instruction, and
`Screenplay.listed` what the list says about the instruction at an index of the block with an id.

- `perform_events`: the events of a call are those of the instructions that it executes, one after another; what stands
  before and after tells no instruction and records no token.
- `listed_eq`: for an instruction the list says exactly its tokens that refer to nothing, in order, because no two blocks
  have one id.
- `report_foretells_run`: so from every reachable playhead, whatever is called, an instruction records what is listed for
  it and falls back to just these tokens; no more, and none at all if the report says that all tokens resolve.
-/
import VisualNovel.Proofs.Itinerary
import VisualNovel.Proofs.Tokens
import VisualNovel.Screenplay.Report

namespace VisualNovel

/-! ## The list -/

theorem flatMap_of_unique {α β : Type} {l : List α} {f : α → List β} {k : Nat} {x : α} (hx : l[k]? = some x)
    (hother : ∀ j y, l[j]? = some y → j ≠ k → f y = []) : l.flatMap f = f x := by
  induction l generalizing k with
  | nil => simp at hx
  | cons a l ih =>
    rw [List.flatMap_cons]
    cases k with
    | zero =>
      obtain rfl : a = x := by simpa using hx
      have hrest : l.flatMap f = [] := by
        rw [List.flatMap_eq_nil_iff]
        intro y hy
        obtain ⟨j, hj⟩ := List.mem_iff_getElem?.1 hy
        exact hother (j + 1) y hj (Nat.succ_ne_zero j)
      rw [hrest, List.append_nil]
    | succ k =>
      rw [hother 0 a rfl (Nat.succ_ne_zero k).symm, List.nil_append]
      exact ih hx fun j y hj hne => hother (j + 1) y hj (by omega)

/-- the text that comes with a token that refers to nothing is the token -/
theorem Token.unresolved?_read (pool : List String) (token : String) :
    (read pool token).unresolved? = Option.guard (fun token => (read pool token).isUnresolved) token := by
  have hread : ∀ {answer}, Reads pool token answer →
      answer.unresolved? = if answer.isUnresolved then some token else none := by
    intro answer h
    cases h <;> rfl
  exact hread (reads_read pool token)

namespace Screenplay

/-- the tokens listed for the instruction at an index of the block with an id, in order -/
def listed (s : Screenplay) (id : Int) (index : Nat) : List String :=
  (s.degraded.filter fun d => d.block = id ∧ d.instruction = index).map (·.token)

theorem mem_listed {s : Screenplay} {d : DegradedToken} (hd : d ∈ s.degraded) :
    d.token ∈ s.listed d.block d.instruction :=
  List.mem_map.2 ⟨d, List.mem_filter.2 ⟨hd, by simp⟩, rfl⟩

theorem listed_nil {s : Screenplay} (hnone : s.degraded = []) (id : Int) (index : Nat) : s.listed id index = [] := by
  simp only [listed, hnone, List.filter_nil, List.map_nil]

theorem degradedIn_eq (pool : List String) (b : Block) :
    degradedIn pool b = b.instructions.zipIdx.flatMap fun (i, index) =>
      (i.unresolved pool).map fun token => ⟨b.id, index, token⟩ := by
  simp only [degradedIn, Token.unresolved?_read, List.filterMap_eq_filter, Instruction.unresolved]

theorem degradedIn_block {pool : List String} {b : Block} {d : DegradedToken} (hd : d ∈ degradedIn pool b) :
    d.block = b.id := by
  rw [degradedIn, List.mem_flatMap] at hd
  obtain ⟨_, -, hd⟩ := hd
  obtain ⟨_, -, rfl⟩ := List.mem_map.1 hd
  rfl

/-- of the tokens listed for a block, those of one instruction -/
theorem filter_degradedIn (pool : List String) {b : Block} {index : Nat} {i : Instruction}
    (hi : b.instructions[index]? = some i) :
    (degradedIn pool b).filter (fun d => d.block = b.id ∧ d.instruction = index) =
      (i.unresolved pool).map fun token => ⟨b.id, index, token⟩ := by
  have hposition : b.instructions.zipIdx[index]? = some (i, index) := by simp [List.getElem?_zipIdx, hi]
  rw [degradedIn_eq, List.filter_flatMap, flatMap_of_unique hposition]
  · simp [List.filter_map, Function.comp_def]
  · intro j y hj hne
    obtain ⟨i', hi', rfl⟩ : ∃ i', b.instructions[j]? = some i' ∧ (i', j) = y := by
      simpa [List.getElem?_zipIdx] using hj
    simp [List.filter_map, Function.comp_def, hne]

/-- **The list says of an instruction exactly which of its tokens refer to nothing.** A block is listed by its id, and no
other block has it. -/
theorem listed_eq (s : Screenplay) {k index : Nat} {b : Block} {i : Instruction} (hb : s.blocks[k]? = some b)
    (hi : b.instructions[index]? = some i) : s.listed b.id index = i.unresolved s.pool := by
  have hothers : ∀ j a, s.blocks[j]? = some a → j ≠ k →
      (degradedIn s.pool a).filter (fun d => d.block = b.id ∧ d.instruction = index) = [] := by
    intro j a ha hne
    rw [List.filter_eq_nil_iff]
    intro d hd
    have hid : a.id ≠ b.id := fun hid => hne (s.position_unique ha hb hid)
    simp [degradedIn_block hd, hid]
  rw [listed, degraded, List.filter_flatMap, flatMap_of_unique hb hothers, filter_degradedIn s.pool hi]
  simp [Function.comp_def]

end Screenplay

/-! ## Records of tokens -/

/-- the token of a record of one that refers to nothing -/
def Record.unresolved? : Record → Option String
  | .unresolved token _ => some token
  | _ => none

namespace Event

/-- the tokens recorded among events, in order -/
def unresolved (es : List Event) : List String := (records es).filterMap Record.unresolved?

@[simp] theorem unresolved_nil : unresolved [] = [] := rfl

@[simp] theorem unresolved_told (n : Notification) (es : List Event) : unresolved (.told n :: es) = unresolved es := rfl

@[simp] theorem unresolved_append (es fs : List Event) : unresolved (es ++ fs) = unresolved es ++ unresolved fs := by
  simp [unresolved, records]

theorem unresolved_flatMap {α : Type} (xs : List α) (f : α → List Event) :
    unresolved (xs.flatMap f) = xs.flatMap fun x => unresolved (f x) := by
  induction xs with
  | nil => rfl
  | cons x xs ih => simp only [List.flatMap_cons, unresolved_append, ih]

/-- events that tell no instruction and record no token -/
structure Idle (es : List Event) : Prop where
  untold : readings es = []
  unrecorded : unresolved es = []

theorem Idle.nil : Idle [] := ⟨rfl, rfl⟩

theorem Idle.logged {r : Record} (hr : r.unresolved? = none) : Idle [.logged r] :=
  ⟨rfl, by simp [unresolved, records, hr]⟩

theorem Idle.append {es fs : List Event} (hes : Idle es) (hfs : Idle fs) : Idle (es ++ fs) :=
  ⟨by simp [hes.untold, hfs.untold], by simp [hes.unrecorded, hfs.unrecorded]⟩

end Event

namespace Setting

theorem log_idle (s : Setting) {r : Record} (hr : r.unresolved? = none) : Event.Idle (s.log r) := by
  unfold log LogFilter.pass
  split
  · exact .logged hr
  · exact .nil

theorem unresolved_unresolvedRecords (s : Setting) (i : Instruction) :
    Event.unresolved (s.unresolvedRecords i) = i.unresolved s.screenplay.pool := by
  simp only [unresolvedRecords]
  induction i.unresolved s.screenplay.pool with
  | nil => rfl
  | cons token tokens ih => exact congrArg (token :: ·) ih

theorem goOn_idle {s : Setting} {h h' : Playhead} {es : List Event} (hgo : s.goOn h = .ok (h', es)) : Event.Idle es := by
  unfold goOn at hgo
  split at hgo
  · cases hgo
  · cases hgo
    exact .nil
  · cases hgo
    exact s.log_idle rfl
  · cases hgo
    exact .nil

/-- what comes of an instruction that has been read records no token -/
theorem dispatch_unresolved (s : Setting) (r : Resolved) (h : Playhead) :
    Event.unresolved (s.dispatch r h).events = [] := by
  unfold dispatch
  split
  · split
    · rfl
    · next hgo => simp [(goOn_idle hgo).unrecorded]
  · simp [(s.log_idle (r := .awaiting r.labels) rfl).unrecorded]
  · split
    · rfl
    · next hgo =>
      split
      · simp [(goOn_idle hgo).unrecorded, (s.log_idle (r := .ended) rfl).unrecorded]
      · exact (goOn_idle hgo).unrecorded

/-- **An instruction records its tokens that refer to nothing**, in order. -/
theorem tick_unresolved (s : Setting) {h : Playhead} {i : Instruction}
    (hi : s.screenplay.instructionAt h.cursor = .ok i) :
    Event.unresolved (s.tick h).events = i.unresolved s.screenplay.pool := by
  have hexecuting := s.log_idle (r := .executing h.cursor.block h.cursor.instruction i.tag) rfl
  simp only [tick, hi, Event.unresolved_append, unresolved_unresolvedRecords, hexecuting.unrecorded, dispatch_unresolved,
    Event.unresolved_told, Event.unresolved_nil, List.append_nil]

/-! ## The instructions that a call executes -/

/-- the playheads at which a run on a budget executes an instruction -/
def stretch (s : Setting) : Nat → Playhead → List Playhead
  | 0, _ => []
  | budget + 1, h =>
    h :: match (s.tick h).answer with
      | some _ => []
      | none => stretch s budget (s.tick h).head

/-- the playheads at which a run to the next suspension executes an instruction -/
def executedBy (s : Setting) (h : Playhead) : List Playhead :=
  match h.progress with
  | .running => s.stretch s.limit h
  | .exhausted | .finished => []

/-- the playheads at which a call executes an instruction; a restored save executes none -/
def executed (s : Setting) : Call → Playhead → List Playhead
  | .advance none, h => s.executedBy h
  | .advance (some edge), h =>
    match s.takeBranch edge h with
    | .error _ => []
    | .ok (h, _) => s.executedBy h
  | .restore _, _ => []

/-- a run is made of the instructions that it executes, and of nothing else -/
theorem runOn_events (s : Setting) (budget : Nat) (h : Playhead) :
    (s.runOn budget h []).events = (s.stretch budget h).flatMap fun x => (s.tick x).events := by
  induction budget generalizing h with
  | zero => rfl
  | succ budget ih =>
    rw [runOn_succ, stretch, List.flatMap_cons]
    cases (s.tick h).answer with
    | some answer => simp
    | none => simp [ih]

theorem run_events (s : Setting) (h : Playhead) :
    ∃ after, (s.run h).events = (s.executedBy h).flatMap (fun x => (s.tick x).events) ++ after ∧ Event.Idle after := by
  cases hp : h.progress with
  | running =>
    refine ⟨[], ?_, .nil⟩
    rw [s.run_running hp, runOn_events, executedBy, hp, List.append_nil]
  | exhausted =>
    refine ⟨s.log .ended, ?_, s.log_idle rfl⟩
    rw [s.run_exhausted hp, executedBy, hp, List.flatMap_nil, List.nil_append]
  | finished =>
    refine ⟨[], ?_, .nil⟩
    rw [s.run_finished hp, executedBy, hp, List.flatMap_nil, List.nil_append]

theorem takeBranch_idle {s : Setting} {edge : Nat} {h h' : Playhead} {es : List Event}
    (htake : s.takeBranch edge h = .ok (h', es)) : Event.Idle es := by
  unfold takeBranch at htake
  split at htake
  · cases htake
  split at htake
  · cases htake
  split at htake
  · cases htake
  · cases htake
    exact .logged rfl
  · cases htake
    exact s.log_idle rfl
  · cases htake
    exact .nil

theorem restore_idle (s : Setting) (state : SaveState) (h : Playhead) : Event.Idle (s.restore state h).events := by
  have hforeign : Event.Idle (s.foreignRecord state) := by
    unfold foreignRecord
    split
    · split
      · exact .nil
      · exact .logged rfl
    · exact .nil
  cases hc : s.screenplay.check ⟨state.blockIndex, state.instructionIndex⟩ with
  | error e =>
    simp only [restore, hc]
    exact hforeign
  | ok u =>
    simp only [restore, hc]
    exact (hforeign.append (s.log_idle rfl)).append ⟨rfl, rfl⟩

/-- **The events of a call are those of the instructions that it executes**, with nothing about instructions or tokens
before and after. -/
theorem perform_events (s : Setting) (call : Call) (h : Playhead) :
    ∃ before after, (s.perform call h).events =
        before ++ (s.executed call h).flatMap (fun x => (s.tick x).events) ++ after ∧
      Event.Idle before ∧ Event.Idle after := by
  cases call with
  | restore state => exact ⟨(s.restore state h).events, [], by simp [perform, executed], s.restore_idle state h, .nil⟩
  | advance choice =>
    cases choice with
    | none =>
      obtain ⟨after, hevents, hafter⟩ := s.run_events h
      exact ⟨[], after, by simp [perform, executed, advance, hevents], .nil, hafter⟩
    | some edge =>
      cases htake : s.takeBranch edge h with
      | error e => exact ⟨[], [], by simp [perform, executed, advance, htake], .nil, .nil⟩
      | ok taken =>
        obtain ⟨h', moved⟩ := taken
        obtain ⟨after, hevents, hafter⟩ := s.run_events h'
        refine ⟨moved ++ [.told .resetLineCounters], after, ?_, (takeBranch_idle htake).append ⟨rfl, rfl⟩, hafter⟩
        simp [perform, executed, advance, htake, hevents]

theorem stretch_sound (s : Setting) (budget : Nat) {h : Playhead} (hs : Sound s h) (hrun : h.progress = .running) :
    ∀ x ∈ s.stretch budget h, Sound s x ∧ x.progress = .running := by
  induction budget generalizing h with
  | zero => simp [stretch]
  | succ budget ih =>
    intro x hx
    rw [stretch, List.mem_cons] at hx
    rcases hx with rfl | hx
    · exact ⟨hs, hrun⟩
    obtain ⟨i, hi⟩ := hs.points
    have ht := s.tick_ticked hi hrun
    cases ha : (s.tick h).answer with
    | some answer => simp [ha] at hx
    | none =>
      rw [ha] at ht
      simp only [ha] at hx
      exact ih (ht.sound hs hrun hi) (ht.running hrun) x hx

theorem executedBy_sound {s : Setting} {h : Playhead} (hs : Sound s h) :
    ∀ x ∈ s.executedBy h, Sound s x ∧ x.progress = .running := by
  unfold executedBy
  split
  next hrun => exact s.stretch_sound s.limit hs hrun
  next => simp
  next => simp

/-- **A call from a sound playhead executes instructions at sound playheads only.** -/
theorem executed_sound {s : Setting} {h : Playhead} (hs : Sound s h) (call : Call) :
    ∀ x ∈ s.executed call h, Sound s x ∧ x.progress = .running := by
  cases call with
  | restore state => simp [executed]
  | advance choice =>
    cases choice with
    | none => exact executedBy_sound hs
    | some edge =>
      cases hd : h.pending with
      | none => simp [executed, takeBranch, hd]
      | some d =>
        obtain ⟨-, hcursor, -, i, hi, -, -⟩ := hs.waits d hd
        rcases s.takeBranch_cases hd hcursor hi edge with ⟨next, es, hleads, htake, -⟩ | ⟨b, htake, -⟩
        · simp only [executed, htake]
          rw [hs.released_goTo hd]
          cases next with
          | some next => exact executedBy_sound (.moved hleads)
          | none => simp [executedBy]
        · simp [executed, htake]

/-! ## Falling back -/

/-- the instruction executed at a playhead is told with a token as it is, since the token refers to nothing -/
def FallsBack (s : Setting) (x : Playhead) (token : String) : Prop :=
  ∃ i r, ∃ j : Nat, s.screenplay.instructionAt x.cursor = .ok i ∧ Event.readings (s.tick x).events = [r] ∧
    i.tokens[j]? = some token ∧ Token.Reads s.screenplay.pool token (.unresolved token) ∧ r.texts[j]? = some token

end Setting

theorem Instruction.mem_unresolved_iff {pool : List String} {i : Instruction} {token : String} :
    token ∈ i.unresolved pool ↔ token ∈ i.tokens ∧ Token.Reads pool token (.unresolved token) := by
  rw [Instruction.unresolved, List.mem_filter]
  refine and_congr_right fun _ => ?_
  have hreads := Token.reads_read pool token
  constructor
  · intro h
    generalize Token.read pool token = answer at h hreads
    cases hreads with
    | plain => cases h
    | pooled => cases h
    | unresolved hplain hnone => exact .unresolved hplain hnone
  · intro h
    rw [Token.read_reads h, Token.isUnresolved]

theorem tick_readings {s : Setting} {x : Playhead} {i : Instruction} (hi : s.screenplay.instructionAt x.cursor = .ok i)
    (hrun : x.progress = .running) : Event.readings (s.tick x).events = [s.reading i] :=
  (s.tick_ticked hi hrun).readings

/-- **An instruction falls back to just the tokens that it records.** -/
theorem fallsBack_iff {s : Setting} {x : Playhead} {i : Instruction} (hi : s.screenplay.instructionAt x.cursor = .ok i)
    (hrun : x.progress = .running) {token : String} : s.FallsBack x token ↔ token ∈ i.unresolved s.screenplay.pool := by
  rw [Instruction.mem_unresolved_iff]
  constructor
  · rintro ⟨i', r, j, hi', -, hj, hreads, -⟩
    obtain rfl := Screenplay.instruction_unique hi hi'
    exact ⟨List.mem_of_getElem? hj, hreads⟩
  · rintro ⟨htoken, hreads⟩
    obtain ⟨j, hj⟩ := List.mem_iff_getElem?.1 htoken
    refine ⟨i, _, j, hi, tick_readings hi hrun, hj, hreads, ?_⟩
    change (i.texts s.screenplay.pool)[j]? = some token
    simp only [Instruction.texts, List.getElem?_map, hj, Option.map_some, Token.read_reads hreads, Token.text]

/-- what the instruction executed at a playhead records, and what it falls back to, is what is listed for it -/
structure Foretold (s : Setting) (x : Playhead) (b : Block) : Prop where
  block : s.screenplay.blocks[x.cursor.block]? = some b
  told : ∃ i, b.instructions[x.cursor.instruction]? = some i ∧ Event.readings (s.tick x).events = [s.reading i]
  recorded : Event.unresolved (s.tick x).events = s.screenplay.listed b.id x.cursor.instruction
  shown : ∀ token, s.FallsBack x token ↔ token ∈ s.screenplay.listed b.id x.cursor.instruction

theorem Sound.foretold {s : Setting} {x : Playhead} (hs : Sound s x) (hrun : x.progress = .running) :
    ∃ b, Foretold s x b := by
  obtain ⟨i, hi⟩ := hs.points
  obtain ⟨b, hb, hbi⟩ := Screenplay.instructionAt_ok_iff.1 hi
  have hlisted := s.screenplay.listed_eq hb hbi
  exact ⟨b, hb, ⟨i, hbi, tick_readings hi hrun⟩, hlisted ▸ s.tick_unresolved hi,
    fun token => hlisted ▸ fallsBack_iff hi hrun⟩

/-- where tokens are listed, no line of a report is the one that there are none -/
theorem Report.lines_ne {r : Report} (hlisted : r.degraded ≠ []) :
    ∀ line ∈ r.lines, line ≠ "all string tokens resolve" := by
  -- the lines differ in their first character
  have hother : ∀ (label rest : String), label.toList.head?.any (· ≠ 'a') →
      label ++ rest ≠ "all string tokens resolve" := by
    intro label rest hlabel h
    obtain ⟨c, hc, hne⟩ := (Option.any_eq_true _ _).1 hlabel
    have hhead := congrArg (·.toList.head?) h
    simp only [String.toList_append, List.head?_append, hc, Option.some_or] at hhead
    exact of_decide_eq_true hne (Option.some.inj hhead)
  intro line hline
  simp only [lines, List.isEmpty_iff, hlisted, if_false, List.mem_append, List.mem_cons, List.mem_map,
    List.not_mem_nil, or_false] at hline
  rcases hline with (rfl | rfl | rfl | rfl | rfl) | rfl | ⟨entry, -, rfl⟩
  case inr.inl =>
    rw [String.append_assoc]
    exact hother _ _ rfl
  all_goals exact hother _ _ rfl

theorem Report.all_resolve_iff (s : Screenplay) :
    "all string tokens resolve" ∈ (ofScreenplay s).lines ↔ s.degraded = [] := by
  constructor
  · intro h
    by_contra hne
    have hlisted : (ofScreenplay s).degraded ≠ [] := by simpa [ofScreenplay] using hne
    exact Report.lines_ne hlisted _ h rfl
  · intro h
    simp [lines, ofScreenplay, h]

/-! ## The report and the run -/

/-- **The report foretells the run.** From every playhead that calls can reach, whatever is called next, the events of the
call are those of the instructions that it executes, with nothing about instructions or tokens before and after; and an
instruction, told with its texts, records exactly the tokens listed for its index under the id of its block, in order,
and falls back to these tokens and no others. So where nothing is listed, which is when the report says that all tokens
resolve, no call records a token or falls back to one; and a listed token is recorded and shown as it is whenever its
instruction is executed. -/
theorem report_foretells_run (s : Setting) (calls : List Call) (call : Call) :
    let h := s.play calls .start
    let events := (s.perform call h).events
    let executed := s.executed call h
    (∃ before after, events = before ++ executed.flatMap (fun x => (s.tick x).events) ++ after ∧
        Event.Idle before ∧ Event.Idle after) ∧
      (∀ x ∈ executed, ∃ b, Foretold s x b) ∧
      (s.screenplay.degraded = [] → Event.unresolved events = [] ∧ ∀ x ∈ executed, ∀ token, ¬ s.FallsBack x token) ∧
      (∀ d ∈ s.screenplay.degraded, ∀ x ∈ executed, ∀ b, s.screenplay.blocks[x.cursor.block]? = some b →
        d.block = b.id → d.instruction = x.cursor.instruction →
        d.token ∈ Event.unresolved (s.tick x).events ∧ s.FallsBack x d.token) ∧
      ("all string tokens resolve" ∈ (Report.ofScreenplay s.screenplay).lines ↔ s.screenplay.degraded = []) := by
  intro h events executed
  have hforetold : ∀ x ∈ executed, ∃ b, Foretold s x b := by
    intro x hx
    obtain ⟨hs, hrun⟩ := Setting.executed_sound (play_sound s (.start s) calls) call x hx
    exact hs.foretold hrun
  obtain ⟨before, after, hevents, hbefore, hafter⟩ := s.perform_events call h
  refine ⟨⟨before, after, hevents, hbefore, hafter⟩, hforetold, ?_, ?_, Report.all_resolve_iff s.screenplay⟩
  · intro hnone
    have hnothing : ∀ x ∈ executed, Event.unresolved (s.tick x).events = [] := by
      intro x hx
      obtain ⟨b, hb⟩ := hforetold x hx
      rw [hb.recorded, Screenplay.listed_nil hnone]
    refine ⟨?_, fun x hx token => ?_⟩
    · simp only [events, hevents, Event.unresolved_append, hbefore.unrecorded, hafter.unrecorded,
        Event.unresolved_flatMap, List.append_nil, List.nil_append, List.flatMap_eq_nil_iff]
      exact hnothing
    · obtain ⟨b, hb⟩ := hforetold x hx
      rw [hb.shown, Screenplay.listed_nil hnone]
      exact List.not_mem_nil
  · intro d hd x hx b hb hid hindex
    obtain ⟨b', hforetold⟩ := hforetold x hx
    obtain rfl := Option.some.inj (hb.symm.trans hforetold.block)
    have hlisted := Screenplay.mem_listed hd
    rw [hid, hindex] at hlisted
    exact ⟨hforetold.recorded ▸ hlisted, (hforetold.shown _).2 hlisted⟩

/-- music and a line, then another line, over a pool of texts -/
def byroad (pool : List String) : Script where
  blocks := [⟨7, [⟨"PlayBgm", [], ["$0"]⟩, ⟨"PlayDialog", [], ["$5"]⟩], [3]⟩, ⟨3, [⟨"PlayDialog", [], ["$1st"]⟩], []⟩]
  pool := pool

/-- walks along it -/
def byroadSetting (pool : List String) : Setting where
  screenplay := ⟨byroad pool, (byroad pool).fingerprint, Script.wellFormed_of_fault? rfl, rfl⟩
  roster := ⟨[]⟩
  filter := .standard
  maxSteps := 10

/-- with one text in the pool the second line is shown as it is, and with six of them nothing is -/
theorem byroad_foretold :
    let short := byroadSetting ["M01"]
    let long := byroadSetting ["M01", "Bob:「Hi」", "", "", "", "Well"]
    let h := short.play [.advance none] .start
    h.cursor = ⟨1, 0⟩ ∧ short.FallsBack h "$1st" ∧
      "all string tokens resolve" ∈ (Report.ofScreenplay long.screenplay).lines ∧
      Event.unresolved (long.perform (.advance none) .start).events = [] := by
  intro short long h
  obtain ⟨-, -, -, hlisted, -⟩ := report_foretells_run short [.advance none] (.advance none)
  obtain ⟨-, -, hnothing, -, hreport⟩ := report_foretells_run long [] (.advance none)
  have hd : ⟨3, 0, "$1st"⟩ ∈ short.screenplay.degraded := by decide
  have hnone : long.screenplay.degraded = [] := by decide
  exact ⟨rfl, (hlisted _ hd h (by decide) _ rfl rfl rfl).2, hreport.2 hnone, (hnothing hnone).1⟩

end VisualNovel
