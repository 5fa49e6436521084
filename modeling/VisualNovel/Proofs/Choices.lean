/-
What can be taken of what is on offer.

A decision offers the labels of its instruction that are not empty. Neither the number of labels nor their match with the
edges of the block is validated, so a decision may offer a label that has no edge, and it may offer nothing.

- `Screenplay.LacksEdge`: the decision ends its block, and the block does not have the edge. The first edge is never
  lacking, because a block without edges ends the screenplay there.
- `Sound.choice_rejected`: the walk rejects a choice exactly when its edge is lacking, whatever comes after it.
- `offer_rejected_iff`: the engine rejects a choice exactly when there is no such label or its edge is lacking, and says
  which; a prompt that only a restored save can leave is one that offers nothing.
- `signpost_closed`: both kinds of prompt can be reached.
-/
import VisualNovel.Proofs.Rejections

namespace VisualNovel

/-! ## Lacking edges -/

namespace Screenplay

/-- the block ends with the instruction under the cursor and does not have the edge -/
structure LacksEdge (s : Screenplay) (edge : Nat) (c : Cursor) (b : Block) : Prop where
  last : s.IsLast c b
  short : b.edges.length ≤ edge
  /-- the first edge of a block without edges ends the screenplay -/
  later : edge ≠ 0

theorem LacksEdge.leads_nowhere {s : Screenplay} {edge : Nat} {c : Cursor} {b : Block} (h : s.LacksEdge edge c b)
    (next : Option Cursor) : ¬ s.Leads edge c next := by
  intro hleads
  -- neither to the next instruction, nor over the edge, nor off the end
  cases hleads with
  | within hb hnext => exact h.last.not_within hb hnext
  | across hlast hedge =>
    obtain rfl := h.last.unique hlast
    exact absurd (List.getElem?_eq_some_iff.1 hedge).1 (Nat.not_lt.2 h.short)
  | off _ _ hfirst => exact h.later hfirst

end Screenplay

section Choice

variable {s : Setting} {h : Playhead} {d : Pending} {b : Block} {edge : Nat}

theorem Sound.choice_lacking (hs : Sound s h) (hd : h.pending = some d)
    (hlacks : s.screenplay.LacksEdge edge h.cursor b) :
    (s.advance (some edge) h).answer = .error (.edgeOutOfRange b.id edge b.edges.length) := by
  have hc := hs.chosen edge
  generalize s.advance (some edge) h = t at hc
  cases hc with
  | noDecision hnone => cases hnone.symm.trans hd
  | noEdge _ hlast =>
    obtain rfl := hlacks.last.unique hlast
    rfl
  | taken _ hleads => exact absurd hleads (hlacks.leads_nowhere _)

/-- **The walk rejects a choice exactly when its edge is lacking.** -/
theorem Sound.choice_rejected (hs : Sound s h) (hd : h.pending = some d)
    (hb : s.screenplay.blocks[h.cursor.block]? = some b) :
    (s.advance (some edge) h).rejected ↔ s.screenplay.LacksEdge edge h.cursor b := by
  constructor
  · intro hr
    obtain ⟨reason, hanswer, hreason⟩ := Turn.rejected_iff.1 hr
    have hrefusal := advance_refusal hs hanswer
    cases hrefusal with
    | noDecision hnone => cases hnone.symm.trans hd
    | noEdge _ hlast hshort hlater =>
      obtain rfl : _ = b := Option.some.inj (hlast.1.symm.trans hb)
      exact ⟨hlast, hshort, hlater⟩
    | runaway => cases hreason
  · intro hlacks
    exact Turn.rejected_iff.2 ⟨_, hs.choice_lacking hd hlacks, rfl⟩

end Choice

/-! ## Offers -/

namespace Production

variable {p : Production} {e : Engine} {d : Pending} {index : Nat}

theorem choose_refused (hd : e.head.pending = some d) :
    (EngineCall.choose index).Refused e ↔ d.labels.length ≤ index := by
  simp only [EngineCall.Refused, hd, Option.some.injEq, forall_eq']

/-- **The engine rejects a choice exactly when it has no label or its edge is lacking.** -/
theorem choose_rejected (hs : Sound p.setting e.head) (hd : e.head.pending = some d) {b : Block}
    (hb : p.setting.screenplay.blocks[e.head.cursor.block]? = some b) :
    (p.perform (.choose index) e).rejected ↔
      d.labels.length ≤ index ∨ p.setting.screenplay.LacksEdge index e.head.cursor b := by
  by_cases hindex : d.labels.length ≤ index
  · exact iff_of_true (rejected_of_refused ((choose_refused hd).2 hindex)) (Or.inl hindex)
  · rw [rejected_of_allowed (mt (choose_refused hd).1 hindex), EngineCall.walk, Setting.rejected_advance,
      hs.choice_rejected hd hb, or_iff_right hindex]

theorem choose_lacking (hs : Sound p.setting e.head) (hd : e.head.pending = some d) {b : Block}
    (hindex : index < d.labels.length) (hlacks : p.setting.screenplay.LacksEdge index e.head.cursor b) :
    (p.perform (.choose index) e).answer = .error (.walk (.edgeOutOfRange b.id index b.edges.length)) := by
  have hallowed : ¬ (EngineCall.choose index).Refused e := mt (choose_refused hd).1 (Nat.not_le.2 hindex)
  have hanswer := congrArg Prod.fst (perform_allowed (p := p) hallowed)
  simp only [outcome, EngineCall.walk, Setting.perform, hs.choice_lacking hd hlacks, Except.map] at hanswer
  exact hanswer

/-- every call but a restored save is rejected -/
def Stuck (p : Production) (e : Engine) : Prop :=
  (p.perform .step e).rejected ∧ ∀ index, (p.perform (.choose index) e).rejected

/-- **Only an empty offer leaves an engine stuck.** -/
theorem stuck_iff (hs : Sound p.setting e.head) (hd : e.head.pending = some d) : p.Stuck e ↔ d.labels = [] := by
  obtain ⟨i, hi⟩ := hs.points
  obtain ⟨b, hb, -⟩ := Screenplay.instructionAt_ok_iff.1 hi
  constructor
  · -- the first label is never the one that lacks an edge
    rintro ⟨-, hchoices⟩
    rcases (choose_rejected hs hd hb).1 (hchoices 0) with hnone | hlacks
    · exact List.length_eq_zero_iff.1 (Nat.le_zero.1 hnone)
    · exact absurd rfl hlacks.later
  · intro hlabels
    have hstep : EngineCall.step.Refused e := by simp [EngineCall.Refused, hd]
    refine ⟨rejected_of_refused hstep, fun index => rejected_of_refused ((choose_refused hd).2 ?_)⟩
    simp [hlabels]

end Production

/-- **Which choices are rejected.** Let any reachable engine have choices on offer. They are the labels of the decision
under the cursor that are not empty. A choice is rejected exactly when there is no such label, and then as invalid, or
when the decision is the last instruction of its block and the block has no such edge, and then for that; the first
label can always be taken. Only a restored save helps exactly when nothing is on offer. -/
theorem offer_rejected_iff (p : Production) (calls : List EngineCall) (labels : List String)
    (hoffer : (p.after calls .start).head.choices = some labels) :
    let e := p.after calls .start
    let c := e.head.cursor
    ∃ b i, p.setting.screenplay.blocks[c.block]? = some b ∧ b.instructions[c.instruction]? = some i ∧
      i.kind = .showDecision ∧ labels = (i.texts p.setting.screenplay.pool).filter (· ≠ "") ∧
      (∀ index, (p.perform (.choose index) e).rejected ↔
        labels.length ≤ index ∨ p.setting.screenplay.LacksEdge index c b) ∧
      (∀ index, labels.length ≤ index → ∃ text, (p.perform (.choose index) e).answer = .error (.invalid text)) ∧
      (∀ index, index < labels.length → p.setting.screenplay.LacksEdge index c b →
        (p.perform (.choose index) e).answer = .error (.walk (.edgeOutOfRange b.id index b.edges.length))) ∧
      (p.Stuck e ↔ labels = []) := by
  intro e c
  have hs : Sound p.setting e.head := p.after_start_sound calls
  obtain ⟨d, hd, rfl⟩ := Option.map_eq_some_iff.1 hoffer
  obtain ⟨-, -, -, i, hi, hkind, hlabels⟩ := hs.waits d hd
  obtain ⟨b, hb, hbi⟩ := Screenplay.instructionAt_ok_iff.1 hi
  refine ⟨b, i, hb, hbi, hkind, hlabels, fun index => ?_, fun index hindex => ?_, fun index hindex hlacks => ?_, ?_⟩
  · exact Production.choose_rejected hs hd hb
  · obtain ⟨text, hanswer, -⟩ := Production.perform_refused (p := p) ((Production.choose_refused hd).2 hindex)
    exact ⟨text, hanswer⟩
  · exact Production.choose_lacking hs hd hindex hlacks
  · exact Production.stuck_iff hs hd

/-- a script of a decision with two labels and one edge -/
def signpost : Script := ⟨[⟨1, [⟨"ShowDecision", [], ["on", "off"]⟩], [2]⟩, ⟨2, [⟨"PlayDialog", [], ["a"]⟩], []⟩], []⟩

/-- a script of a decision with no labels -/
def blankSign : Script := ⟨[⟨1, [⟨"ShowDecision", [], []⟩], []⟩], []⟩

/-- the signpost under the standard configuration -/
def signpostProduction : Production :=
  .make ⟨signpost, signpost.fingerprint, Script.wellFormed_of_fault? (by decide), rfl⟩ .standard

/-- the blank sign under the standard configuration -/
def blankProduction : Production :=
  .make ⟨blankSign, blankSign.fingerprint, Script.wellFormed_of_fault? (by decide), rfl⟩ .standard

/-- **What is on offer cannot always be taken, and there may be nothing on offer.** -/
theorem signpost_closed :
    let e := signpostProduction.after [.step] .start
    let f := blankProduction.after [.step] .start
    e.head.choices = some ["on", "off"] ∧
      (signpostProduction.perform (.choose 1) e).answer = .error (.walk (.edgeOutOfRange 1 1 1)) ∧
      f.head.choices = some [] ∧ (blankProduction.perform .step f).rejected ∧
      ∀ index, (blankProduction.perform (.choose index) f).rejected :=
  ⟨rfl, rfl, rfl, rfl, fun _ => rfl⟩

/-- the first label can be taken, the second one not -/
theorem signpost_open :
    let p := signpostProduction
    let e := p.after [.step] .start
    e.head.choices = some ["on", "off"] ∧ ¬ (p.perform (.choose 0) e).rejected ∧ (p.perform (.choose 1) e).rejected := by
  intro p e
  have hoffer : e.head.choices = some ["on", "off"] := rfl
  obtain ⟨b, i, hb, -, -, -, hrejected, -⟩ := offer_rejected_iff p [.step] _ hoffer
  obtain rfl : _ = b := Option.some.inj hb
  refine ⟨hoffer, fun hr => ?_, (hrejected 1).2 (Or.inr ⟨⟨rfl, rfl⟩, by decide, by decide⟩)⟩
  rcases (hrejected 0).1 hr with hnone | hlacks
  · exact absurd hnone (by decide)
  · exact absurd rfl hlacks.later

end VisualNovel
