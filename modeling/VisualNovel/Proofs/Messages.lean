/-
Messages for hosts and their documents.

- `Directive.args`, `Notification.detail?`: the members that are written for the content of a message. A message in other
  words (`Restated`) has those members in its content and that content beside its tag, each in any order and among others.
- `Keeps`: what is kept until it is asked for can be kept. It is asked of added members only: in content that stands
  before its tag, and among the members of a dialog line, which stand side by side with those of its speech.
- A directive, a list of them and a notification in other words are decoded to what they were, or are refused for what
  cannot be kept (`Directive.ofJson_restated`, `StepResult.ofJson_restated`, `Notification.ofJson_restated`).
-/
import VisualNovel.Directive
import VisualNovel.Proofs.JsonText
import VisualNovel.Proofs.Restating

namespace VisualNovel

/-! ## Choices -/

theorem DisplayMode.lookup_choices (mode : DisplayMode) : choices.lookup mode.name = some mode := by
  cases mode <;> rfl

theorem NextAction.lookup_choices (next : NextAction) : choices.lookup next.name = some next := by
  cases next <;> rfl

/-! ## Directives -/

namespace Directive

/-- the variant of a directive -/
def variant : Directive → Variant
  | say .. => .say
  | showImage .. => .showImage
  | playBgm _ => .playBgm
  | playSe _ => .playSe
  | playVoice _ => .playVoice
  | branch _ => .branch

/-- the name of the variant in documents -/
def typeName : Directive → String
  | say .. => "Say"
  | showImage .. => "ShowImage"
  | playBgm _ => "PlayBgm"
  | playSe _ => "PlaySe"
  | playVoice _ => "PlayVoice"
  | branch _ => "Branch"

/-- the members that are written for the content -/
def args : Directive → List (String × Json)
  | say speaker text mode => [("speaker", .text speaker), ("text", .text text), ("mode", .text mode.name)]
  | showImage layer path => [("layer", .text layer), ("path", .optText path)]
  | playBgm path => [("path", .optText path)]
  | playSe path | playVoice path => [("path", .text path)]
  | branch choices => [("choices", .texts choices)]

/-- the members that are written for a directive whose content has these -/
def written (d : Directive) (content : List (String × Json)) : List (String × Json) :=
  [("type", .text d.typeName), ("args", .object content)]

theorem toJson_eq (d : Directive) : d.toJson = .object (d.written d.args) := by
  cases d <;> rfl

/-- the directive in other words -/
structure Restated (d : Directive) (w : Json.Wording) : Prop where
  args : Json.Restates d.args w.content
  document : Json.Restates (d.written w.content) w.members

theorem restated_written (d : Directive) : d.Restated ⟨d.written d.args, d.args⟩ where
  args := .refl (by cases d <;> simp [args])
  document := .refl (by simp [written])

/-- what has to be kept can be: the added members of content that stands before its tag -/
def Keeps (around : Nat) (d : Directive) (w : Json.Wording) : Bool :=
  !Json.contentFirst "type" "args" w.members ||
    Json.bearsAdded (Json.nestingMax - (around + 2)) (d.args.map Prod.fst) w.content

variable {d : Directive} {w : Json.Wording} {content : List (String × Json)}

theorem ofTagged_restated (h : Json.Restates d.args content) (kept : Bool) :
    ofTagged ⟨d.variant, some (.object content), kept⟩ = .ok d := by
  have hfields := h.ofObject (List.Subset.refl _)
  cases d with
  | say speaker text mode =>
    have hspeaker := h.required_text (.head _)
    have htext := h.required_text (.tail _ (.head _))
    have hmode := h.required_choice (.tail _ (.tail _ (.head _))) mode.lookup_choices
    simp only [args, List.map] at hfields
    simp only [ofTagged, variant, Json.Tagged.record, Json.bind_ok, hfields, hspeaker, htext, hmode]
    rfl
  | showImage layer path =>
    have hlayer := h.required_text (.head _)
    have hpath := h.optional_text (.tail _ (.head _))
    simp only [args, List.map] at hfields
    simp only [ofTagged, variant, Json.Tagged.record, Json.bind_ok, hfields, hlayer, hpath]
    rfl
  | playBgm path =>
    have hpath := h.optional_text (.head _)
    simp only [args, List.map] at hfields
    simp only [ofTagged, variant, Json.Tagged.record, Json.bind_ok, hfields, hpath]
    rfl
  | playSe path =>
    have hpath := h.required_text (.head _)
    simp only [args, List.map] at hfields
    simp only [ofTagged, variant, Json.Tagged.record, Json.bind_ok, hfields, hpath]
    rfl
  | playVoice path =>
    have hpath := h.required_text (.head _)
    simp only [args, List.map] at hfields
    simp only [ofTagged, variant, Json.Tagged.record, Json.bind_ok, hfields, hpath]
    rfl
  | branch choices =>
    have hchoices := h.required_texts (.head _)
    simp only [args, List.map] at hfields
    simp only [ofTagged, variant, Json.Tagged.record, Json.bind_ok, hfields, hchoices]
    rfl

/-- nothing has to be kept of content behind its tag, and nothing that was written stands in the way -/
theorem keeps_of (around : Nat) (h : Json.contentFirst "type" "args" w.members = false ∨
    ∀ m ∈ w.content, m.1 ∈ d.args.map Prod.fst) : d.Keeps around w = true := by
  rcases h with h | h
  · rw [Keeps, h]
    rfl
  · rw [Keeps, Json.bearsAdded_known _ h, Bool.or_true]

theorem bears_args (d : Directive) (room : Nat) : ∀ m ∈ d.args, m.2.bears (room + 1) = true := by
  cases d <;> simp [args, Json.bears_text, Json.bears_optText, Json.bears_texts]

/-- a directive in other words is decoded to what it was, unless something cannot be kept -/
theorem ofJson_restated (h : d.Restated w) {around : Nat} (haround : around + 3 ≤ Json.nestingMax) :
    ofJson around (.object w.members) = if d.Keeps around w then .ok d else .error .garbled := by
  have hvariant : Variant.choices.lookup d.typeName = some d.variant := by cases d <;> rfl
  have htagged := Json.tagged_restated h.document hvariant (by rintro ⟨⟩) around
  rw [h.args.bears_object d.bears_args haround] at htagged
  rw [ofJson, htagged, Keeps]
  split
  · exact ofTagged_restated h.args _
  · rfl

/-- directives in other words are decoded one after the other until one has something that cannot be kept -/
theorem mapM_restated {ws : List Json.Wording} {ds : List Directive} (h : List.Forall₂ (fun w d => d.Restated w) ws ds)
    {around : Nat} (haround : around + 3 ≤ Json.nestingMax) :
    (ws.map fun w => Json.object w.members).mapM (ofJson around) =
      if (ws.zip ds).all fun p => p.2.Keeps around p.1 then .ok ds else .error .garbled := by
  induction h with
  | nil => rfl
  | @cons w d ws ds hd _ ih =>
    rw [List.map_cons, List.mapM_cons, ofJson_restated hd haround, ih, List.zip_cons_cons, List.all_cons]
    cases d.Keeps around w <;> cases (ws.zip ds).all fun p => p.2.Keeps around p.1 <;> rfl

end Directive

/-! ## Step results -/

namespace StepResult

/-- the members that are written for a result whose directives are worded so -/
def written (r : StepResult) (ws : List Json.Wording) : List (String × Json) :=
  [("next", .text r.next.name), ("directives", .arr (ws.map fun w => .object w.members))]

/-- the result in other words: its directives are, and so are its own members -/
structure Restated (r : StepResult) (members : List (String × Json)) (ws : List Json.Wording) : Prop where
  directives : List.Forall₂ (fun w d => d.Restated w) ws r.directives
  document : Json.Restates (r.written ws) members

/-- what has to be kept can be, in each directive -/
def Keeps (r : StepResult) (ws : List Json.Wording) : Bool := (ws.zip r.directives).all fun p => p.2.Keeps 2 p.1

/-- a result in other words is decoded to what it was, unless something cannot be kept -/
theorem ofJson_restated {r : StepResult} {members : List (String × Json)} {ws : List Json.Wording}
    (h : r.Restated members ws) :
    ofJson (.object members) = if r.Keeps ws then .ok r else .error .garbled := by
  have hnames : ["next", "directives"] ⊆ (r.written ws).map Prod.fst := List.Subset.refl _
  have hfields := h.document.ofRecord hnames
  have hnext := h.document.required_choice (.head _) r.next.lookup_choices false
  have hdirectives := h.document.required (Json.asList (Directive.ofJson 2)) (.tail _ (.head _)) (by rintro ⟨⟩)
  have hlist : (ws.map fun w => Json.object w.members).mapM (Directive.ofJson 2) =
      if r.Keeps ws then .ok r.directives else .error .garbled := Directive.mapM_restated h.directives (by decide)
  simp only [ofJson, hfields, Json.bind_ok, hnext, hdirectives, Json.asList, hlist]
  cases r.Keeps ws <;> rfl

/-- how the directives of a result are written -/
def wordings (r : StepResult) : List Json.Wording := r.directives.map fun d => ⟨d.written d.args, d.args⟩

theorem toJson_eq (r : StepResult) : r.toJson = .object (r.written r.wordings) := by
  have hdirectives : r.directives.map Directive.toJson = r.wordings.map fun w => .object w.members := by
    rw [wordings, List.map_map]
    exact List.map_congr_left fun d _ => d.toJson_eq
  rw [toJson, written, hdirectives]

theorem restated_written (r : StepResult) : r.Restated (r.written r.wordings) r.wordings where
  directives := by
    rw [wordings, List.forall₂_map_left_iff, List.forall₂_same]
    exact fun d _ => d.restated_written
  document := .refl (by simp [written])

theorem keeps_written (r : StepResult) : r.Keeps r.wordings = true := by
  unfold Keeps wordings
  induction r.directives with
  | nil => rfl
  | cons d ds ih =>
    have hd : d.Keeps 2 ⟨d.written d.args, d.args⟩ = true := d.keeps_of 2 (.inr fun m hm => List.mem_map_of_mem hm)
    rw [List.map_cons, List.zip_cons_cons, List.all_cons, hd, ih, Bool.true_and]

end StepResult

/-! ## Dialog lines -/

namespace DialogLine

/-- the numbers are in range -/
structure Fits (l : DialogLine) : Prop where
  blockIndex : l.blockIndex ≤ Text.sizeMax
  lineNumber : ∀ n ∈ l.lineNumber, -Int.pow 2 31 ≤ n ∧ n ≤ Int.pow 2 31 - 1

/-- the members that are written for a line: those of its speech stand side by side with its own -/
def members (l : DialogLine) : List (String × Json) :=
  [("speakerName", .text l.speech.speaker), ("content", .text l.speech.content),
    ("displayMode", .text l.speech.mode.name), ("blockIndex", .nat l.blockIndex),
    ("lineNumber", .orNull .int l.lineNumber)]

theorem toJson_eq (l : DialogLine) : l.toJson = .object l.members := by
  unfold toJson members
  cases l.lineNumber <;> rfl

variable {l : DialogLine} {content : List (String × Json)}

theorem bears_members (hl : l.Fits) (room : Nat) : ∀ m ∈ l.members, m.2.bears (room + 1) = true := by
  have hblock : (Json.nat l.blockIndex).bears (room + 1) = true := Json.bears_int (n := l.blockIndex) hl.blockIndex _
  have hline : (Json.orNull .int l.lineNumber).bears (room + 1) = true := by
    cases hn : l.lineNumber with
    | none => rw [Json.orNull, Json.bears]
    | some n =>
      exact Json.bears_int (Json.natAbs_le_of_int32 (hl.lineNumber n hn)) _
  simp [members, Json.bears_text, hblock, hline]

theorem bearsOthers_object (room : Nat) (own : List String) :
    bearsOthers room own (content.map fun m => (some m.1, m.2)) = Json.bearsAdded room own content := by
  rw [bearsOthers, Json.bearsAdded, List.all_map]
  refine List.all_congr rfl fun m => ?_
  have hown : (own.any fun name => some name == some m.1) = own.contains m.1 := by
    rw [Bool.eq_iff_iff]
    simp
  exact congrArg (· || m.2.bears room) hown

/-- a line in other words is decoded to what it was, unless an added member cannot be kept -/
theorem ofJson_restated (hl : l.Fits) (h : Json.Restates l.members content) {around : Nat}
    (haround : around + 3 ≤ Json.nestingMax) : ofJson (around + 1) (.object content) =
      if Json.bearsAdded (Json.nestingMax - (around + 2)) (l.members.map Prod.fst) content then .ok l
      else .error .garbled := by
  obtain ⟨room, hroom⟩ : ∃ room, Json.nestingMax - (around + 2) = room + 1 :=
    ⟨Json.nestingMax - (around + 3), by omega⟩
  have hadded : bearsOthers (Json.nestingMax - (around + 1 + 1)) ["blockIndex", "lineNumber"]
      (content.map fun m => (some m.1, m.2)) =
      Json.bearsAdded (Json.nestingMax - (around + 2)) (l.members.map Prod.fst) content := by
    have hwritten := bears_members hl room
    have hown : ["blockIndex", "lineNumber"] ⊆ l.members.map Prod.fst := by simp [members]
    rw [bearsOthers_object, hroom, h.bearsAdded_eq hwritten hown, h.bearsAdded_eq hwritten (List.Subset.refl _)]
  have hnames : ["blockIndex", "lineNumber"] ++ ["speakerName", "content", "displayMode"] ⊆ l.members.map Prod.fst := by
    simp [members]
  have hfields := h.ofObject hnames
  have hspeaker := h.required_text (.head _)
  have hcontent := h.required_text (.tail _ (.head _))
  have hmode := h.required_choice (.tail _ (.tail _ (.head _))) l.speech.mode.lookup_choices true
  have hblock := h.required_exact Json.exact_size (by rintro _ ⟨⟩) (.tail _ (.tail _ (.tail _ (.head _)))) hl.blockIndex
  have hline := h.optional_exact Json.exact_int32 (by rintro _ ⟨⟩) (.tail _ (.tail _ (.tail _ (.tail _ (.head _)))))
    hl.lineNumber
  have hobject : Json.object content = .obj (content.map fun m => (some m.1, m.2)) := rfl
  rw [hobject] at hfields ⊢
  simp only [ofJson, hfields, Json.bind_ok, hadded, hspeaker, hcontent, hmode, hblock, hline]
  split <;> rfl

theorem fits_of_ofJson {around : Nat} {v : Json} (h : ofJson around v = .ok l) : l.Fits := by
  cases v with
  | obj ms =>
    simp only [ofJson, Json.bind_ok_iff] at h
    obtain ⟨f, hf, h⟩ := h
    split at h
    · simp only [Json.bind_ok_iff, Json.Fields.required_exact Json.exact_size] at h
      obtain ⟨speaker, -, content, -, mode, -, block, ⟨-, hblock⟩, line, hline, ⟨⟩⟩ := h
      exact ⟨hblock, Json.Fields.optional_fits Json.exact_int32 (by rintro _ ⟨⟩) hline⟩
    · cases h
  | _ => cases h

end DialogLine

/-! ## Instructions -/

namespace Resolved

/-- the integers are 32-bit -/
def Fits (r : Resolved) : Prop := ∀ n ∈ r.params, -Int.pow 2 31 ≤ n ∧ n ≤ Int.pow 2 31 - 1

/-- the members that are written for a resolved instruction -/
def members (r : Resolved) : List (String × Json) :=
  [("type", .text r.tag), ("params", .arr (r.params.map .int)), ("stringParams", .texts r.texts)]

variable {r : Resolved} {content : List (String × Json)}

theorem bears_members (hr : r.Fits) (room : Nat) : ∀ m ∈ r.members, m.2.bears (room + 1) = true := by
  have hparams : (Json.arr (r.params.map .int)).bears (room + 1) = true :=
    Json.bears_list fun n hn => Json.bears_int (Json.natAbs_le_of_int32 (hr n hn)) room
  simp [members, Json.bears_text, Json.bears_texts, hparams]

/-- an instruction in other words is decoded to what it was -/
theorem ofJson_restated (hr : r.Fits) (h : Json.Restates r.members content) : ofJson (.object content) = .ok r := by
  have hnames : instructionNames ⊆ r.members.map Prod.fst := List.Subset.refl _
  have hfields := h.ofRecord hnames
  have htag := h.required_text (.head _)
  have hparams := h.required_exact Json.exact_int32.list (by rintro _ ⟨⟩) (.tail _ (.head _)) hr
  have htexts := h.required_texts (.tail _ (.tail _ (.head _)))
  simp only [ofJson, hfields, Json.bind_ok, htag, hparams, htexts]
  rfl

theorem fits_of_ofJson {v : Json} (h : ofJson v = .ok r) : r.Fits := by
  simp only [ofJson, Json.bind_ok_iff, Json.Fields.required_exact Json.exact_int32.list] at h
  obtain ⟨f, -, tag, -, params, ⟨-, hparams⟩, texts, -, ⟨⟩⟩ := h
  exact hparams

end Resolved

/-! ## Notifications -/

namespace Notification

/-- the variant of a notification -/
def variant : Notification → Variant
  | instruction _ => .instruction
  | dialogLine _ => .dialogLine
  | decision _ => .decision
  | resetLineCounters => .resetLineCounters
  | restoreGraphics .. => .restoreGraphics
  | restoreMusic _ => .restoreMusic

/-- the name of the variant in documents -/
def typeName : Notification → String
  | instruction _ => "Instruction"
  | dialogLine _ => "DialogLine"
  | decision _ => "Decision"
  | resetLineCounters => "ResetLineCounters"
  | restoreGraphics .. => "RestoreGraphics"
  | restoreMusic _ => "RestoreMusic"

/-- the numbers are in range -/
def Fits : Notification → Prop
  | instruction i => i.Fits
  | dialogLine l => l.Fits
  | _ => True

/-- the members that are written for the content, if there is one -/
def detail? : Notification → Option (List (String × Json))
  | instruction i => some i.members
  | dialogLine l => some l.members
  | decision labels => some [("labels", .texts labels)]
  | resetLineCounters => none
  | restoreGraphics background portrait => some [("background", .optText background), ("portrait", .optText portrait)]
  | restoreMusic track => some [("track", .optText track)]

/-- the members that are written for a notification -/
def members (n : Notification) : List (String × Json) :=
  ("type", .text n.typeName) :: (n.detail?.map fun detail => ("detail", .object detail)).toList

theorem toJson_eq (n : Notification) : n.toJson = .object n.members := by
  cases n with
  | dialogLine l =>
    rw [toJson, DialogLine.toJson_eq]
    rfl
  | _ => rfl

/-- the notification in other words; a content that is not there may be null -/
structure Restated (n : Notification) (w : Json.Wording) : Prop where
  detail : ∀ written ∈ n.detail?, Json.Restates written w.content
  document : Json.Restates [("type", .text n.typeName), ("detail", if n.detail?.isSome then .object w.content else .null)]
    w.members

/-- whether all members of the content but those of the notification itself are kept, wherever the content stands -/
def isFlat : Notification → Bool
  | dialogLine _ => true
  | _ => false

/-- what has to be kept can be: the added members of a dialog line and of content that stands before its tag -/
def Keeps (around : Nat) (n : Notification) (w : Json.Wording) : Bool :=
  match n.detail? with
  | some written => !(Json.contentFirst "type" "detail" w.members || n.isFlat) ||
    Json.bearsAdded (Json.nestingMax - (around + 2)) (written.map Prod.fst) w.content
  | none => true

variable {n : Notification} {w : Json.Wording} {written content : List (String × Json)} {around : Nat}

theorem ofTagged_restated (hn : n.Fits) (hdetail : n.detail? = some written) (h : Json.Restates written content)
    (haround : around + 3 ≤ Json.nestingMax) (kept : Bool) :
    ofTagged around ⟨n.variant, some (.object content), kept⟩ =
      if !n.isFlat || Json.bearsAdded (Json.nestingMax - (around + 2)) (written.map Prod.fst) content then .ok n
      else .error .garbled := by
  cases n with
  | instruction i =>
    cases hdetail
    have hresolved := i.ofJson_restated hn h
    simp only [ofTagged, variant, Json.Tagged.record, Json.bind_ok, hresolved]
    rfl
  | dialogLine l =>
    cases hdetail
    have hline := l.ofJson_restated hn h haround
    simp only [ofTagged, variant, Json.Tagged.record, Json.bind_ok, hline, isFlat, Bool.not_true, Bool.false_or]
    split <;> rfl
  | decision labels =>
    cases hdetail
    have hfields := h.ofObject (List.Subset.refl _)
    have hlabels := h.required_texts (.head _)
    simp only [List.map] at hfields
    simp only [ofTagged, variant, Json.Tagged.record, Json.bind_ok, hfields, hlabels]
    rfl
  | resetLineCounters => cases hdetail
  | restoreGraphics background portrait =>
    cases hdetail
    have hfields := h.ofObject (List.Subset.refl _)
    have hbackground := h.optional_text (.head _)
    have hportrait := h.optional_text (.tail _ (.head _))
    simp only [List.map] at hfields
    simp only [ofTagged, variant, Json.Tagged.record, Json.bind_ok, hfields, hbackground, hportrait]
    rfl
  | restoreMusic track =>
    cases hdetail
    have hfields := h.ofObject (List.Subset.refl _)
    have htrack := h.optional_text (.head _)
    simp only [List.map] at hfields
    simp only [ofTagged, variant, Json.Tagged.record, Json.bind_ok, hfields, htrack]
    rfl

theorem bears_detail (hn : n.Fits) (hdetail : n.detail? = some written) (room : Nat) :
    ∀ m ∈ written, m.2.bears (room + 1) = true := by
  cases n with
  | instruction i =>
    cases hdetail
    exact i.bears_members hn room
  | dialogLine l =>
    cases hdetail
    exact l.bears_members hn room
  | decision labels =>
    cases hdetail
    simp [Json.bears_texts]
  | resetLineCounters => cases hdetail
  | restoreGraphics background portrait =>
    cases hdetail
    simp [Json.bears_optText]
  | restoreMusic track =>
    cases hdetail
    simp [Json.bears_optText]

/-- a notification in other words is decoded to what it was, unless something cannot be kept -/
theorem ofJson_restated (hn : n.Fits) (h : n.Restated w) (haround : around + 3 ≤ Json.nestingMax) :
    ofJson around (.object w.members) = if n.Keeps around w then .ok n else .error .garbled := by
  have hvariant : Variant.choices.lookup n.typeName = some n.variant := by cases n <;> rfl
  have hdocument := h.document
  cases hdetail : n.detail? with
  | none =>
    rw [hdetail, if_neg (by simp)] at hdocument
    obtain ⟨⟨tag, content, kept⟩, htagged, rfl, hcontent⟩ := Json.tagged_null hdocument hvariant around
    cases n with
    | resetLineCounters =>
      rw [ofJson, htagged, Json.bind_ok]
      rcases content with - | content
      · rfl
      · cases hcontent
        rfl
    | _ => cases hdetail
  | some written =>
    rw [hdetail, if_pos Option.isSome_some] at hdocument
    have hcontent := h.detail written hdetail
    have htagged := Json.tagged_restated hdocument hvariant (by rintro ⟨⟩) around
    have htold := ofTagged_restated hn hdetail hcontent haround
    rw [hcontent.bears_object (bears_detail hn hdetail) haround] at htagged
    simp only [ofJson, htagged, Keeps, hdetail]
    -- what is asked of the document and then of a dialog line is asked at once
    cases hadded : Json.bearsAdded (Json.nestingMax - (around + 2)) (written.map Prod.fst) w.content with
    | true => simp only [Bool.or_true, if_true, Json.bind_ok, htold, hadded]
    | false =>
      simp only [hadded, Bool.or_false] at htold ⊢
      cases Json.contentFirst "type" "detail" w.members with
      | true => rfl
      | false => exact htold false

theorem names_nodup (hdetail : n.detail? = some written) : (written.map Prod.fst).Nodup := by
  cases n <;> cases hdetail <;> simp [Resolved.members, DialogLine.members]

theorem restated_written (n : Notification) : n.Restated ⟨n.members, n.detail?.getD []⟩ where
  detail written hdetail := by
    rw [hdetail]
    exact .refl (names_nodup hdetail)
  document := by
    cases hdetail : n.detail? with
    | none =>
      rw [if_neg (by simp), members, hdetail]
      have htype : Json.Restates [("type", .text n.typeName)] [("type", .text n.typeName)] := .refl (by simp)
      exact htype.append_null (by simp)
    | some written =>
      rw [if_pos Option.isSome_some, members, hdetail]
      exact .refl (by simp)

/-- nothing has to be kept of content behind its tag that is no dialog line, and nothing that was written stands in the
way -/
theorem keeps_of (around : Nat) (h : (Json.contentFirst "type" "detail" w.members = false ∧ n.isFlat = false) ∨
    ∀ written ∈ n.detail?, ∀ m ∈ w.content, m.1 ∈ written.map Prod.fst) : n.Keeps around w = true := by
  unfold Keeps
  split
  case h_1 written hdetail =>
    rcases h with ⟨hfirst, hflat⟩ | h
    · rw [hfirst, hflat]
      rfl
    · rw [Json.bearsAdded_known _ (h written hdetail), Bool.or_true]
  case h_2 => rfl

theorem keeps_written (n : Notification) (around : Nat) : n.Keeps around ⟨n.members, n.detail?.getD []⟩ = true := by
  refine keeps_of around (.inr fun written hdetail m hm => ?_)
  rw [Option.mem_def] at hdetail
  rw [hdetail] at hm
  exact List.mem_map_of_mem hm

theorem fits_of_ofJson {v : Json} (h : ofJson around v = .ok n) : n.Fits := by
  obtain ⟨⟨tag, content, kept⟩, -, htold⟩ := Json.bind_ok_iff.1 h
  cases tag with
  | instruction =>
    simp only [ofTagged, Json.bind_ok_iff] at htold
    obtain ⟨v, -, i, hi, ⟨⟩⟩ := htold
    exact i.fits_of_ofJson hi
  | dialogLine =>
    simp only [ofTagged, Json.bind_ok_iff] at htold
    obtain ⟨v, -, l, hl, ⟨⟩⟩ := htold
    exact l.fits_of_ofJson hl
  | decision =>
    simp only [ofTagged, Json.bind_ok_iff] at htold
    obtain ⟨v, -, f, -, labels, -, ⟨⟩⟩ := htold
    trivial
  | resetLineCounters =>
    simp only [ofTagged] at htold
    split at htold <;> cases htold <;> trivial
  | restoreGraphics =>
    simp only [ofTagged, Json.bind_ok_iff] at htold
    obtain ⟨v, -, f, -, background, -, portrait, -, ⟨⟩⟩ := htold
    trivial
  | restoreMusic =>
    simp only [ofTagged, Json.bind_ok_iff] at htold
    obtain ⟨v, -, f, -, track, -, ⟨⟩⟩ := htold
    trivial

end Notification

/-- **Messages survive their documents.** Step results and notifications are decoded from what is written for them, in
any layout. In other words they are decoded to what they were: with tag and content in either order, with members of
other names among theirs, and with nulls left out. The one exception is an added member that has to be kept and cannot
be, in content that stands before its tag or beside the members of a dialog line: then nothing is decoded. -/
theorem messages_survive_rewording :
    (∀ lay : Json.Layout, lay.Airy →
      (∀ r : StepResult, Json.decode StepResult.ofJson ((Json.render lay 0 r.toJson).map some) = .ok r) ∧
      ∀ n : Notification, Json.decode (Notification.ofJson 0) ((Json.render lay 0 n.toJson).map some) = .ok n ↔ n.Fits) ∧
    (∀ (r : StepResult) (members : List (String × Json)) (ws : List Json.Wording) (source : List Json.Symbol),
      r.Restated members ws → Json.read source = .ok (.object members) → Json.decode StepResult.ofJson source =
        if r.Keeps ws then .ok r else .error (.misfit .garbled (Json.endPlace source))) ∧
    (∀ (n : Notification) (w : Json.Wording) (source : List Json.Symbol), n.Fits → n.Restated w →
      Json.read source = .ok (.object w.members) → Json.decode (Notification.ofJson 0) source =
        if n.Keeps 0 w then .ok n else .error (.misfit .garbled (Json.endPlace source))) ∧
    (∀ (d : Directive) (w : Json.Wording), Json.contentFirst "type" "args" w.members = false ∨
      (∀ m ∈ w.content, m.1 ∈ d.args.map Prod.fst) → d.Keeps 2 w = true) ∧
    (∀ (n : Notification) (w : Json.Wording),
      (Json.contentFirst "type" "detail" w.members = false ∧ n.isFlat = false) ∨
      (∀ written ∈ n.detail?, ∀ m ∈ w.content, m.1 ∈ written.map Prod.fst) → n.Keeps 0 w = true) ∧
    ∀ l : DialogLine, (Notification.dialogLine l).toJson =
      .object [("type", .text "DialogLine"), ("detail", .object l.members)] := by
  have hroom : 0 + 3 ≤ Json.nestingMax := by decide
  refine ⟨fun lay hlay => ⟨fun r => ?_, fun n => ?_⟩, fun r members ws source h hread => ?_,
    fun n w source hn h hread => ?_, fun d w => d.keeps_of 2, fun n w => n.keeps_of 0, fun l => ?_⟩
  · rw [Json.decode_render hlay, r.toJson_eq, StepResult.ofJson_restated r.restated_written, r.keeps_written, if_pos rfl]
  · rw [Json.decode_render hlay]
    refine ⟨Notification.fits_of_ofJson, fun hn => ?_⟩
    have hwritten := Notification.ofJson_restated hn n.restated_written hroom
    rw [n.keeps_written, if_pos rfl] at hwritten
    rw [n.toJson_eq]
    exact hwritten
  · exact Json.decode_ite hread (StepResult.ofJson_restated h)
  · exact Json.decode_ite hread (Notification.ofJson_restated hn h hroom)
  · exact (Notification.dialogLine l).toJson_eq

/-- a picture is cleared and choices are offered -/
def offeredResult : StepResult := ⟨.waitBranch, [.showImage "background" none, .branch ["on", "off"]]⟩

/-- its directives in other words: the one with its content in front and without the path, the other with its tag in front
and among members that could not be kept -/
def offeredWordings : List Json.Wording :=
  [⟨[("args", .object [("layer", .text "background"), ("mood", .real false)]), ("type", .text "ShowImage")],
      [("layer", .text "background"), ("mood", .real false)]⟩,
    ⟨[("type", .text "Branch"), ("by", .str none), ("args", .object [("mood", .real true), ("choices", .texts ["on", "off"])])],
      [("mood", .real true), ("choices", .texts ["on", "off"])]⟩]

/-- its own members in another order and among another -/
def offeredMembers : List (String × Json) :=
  [("note", .real true), ("directives", .arr (offeredWordings.map fun w => .object w.members)),
    ("next", .text "WaitBranch")]

theorem offeredResult_restated : offeredResult.Restated offeredMembers offeredWordings where
  directives := by
    refine .cons ⟨⟨by unfold Json.KnownOnce; decide, ?_⟩, ⟨by unfold Json.KnownOnce; decide, ?_⟩⟩
      (.cons ⟨⟨by unfold Json.KnownOnce; decide, ?_⟩, ⟨by unfold Json.KnownOnce; decide, ?_⟩⟩ .nil)
    · exact List.forall_mem_cons.2 ⟨.inl rfl, List.forall_mem_singleton.2 (.inr ⟨rfl, rfl⟩)⟩
    · exact List.forall_mem_cons.2 ⟨.inl rfl, List.forall_mem_singleton.2 (.inl rfl)⟩
    · exact List.forall_mem_singleton.2 (.inl rfl)
    · exact List.forall_mem_cons.2 ⟨.inl rfl, List.forall_mem_singleton.2 (.inl rfl)⟩
  document := ⟨by unfold Json.KnownOnce; decide,
    List.forall_mem_cons.2 ⟨.inl rfl, List.forall_mem_singleton.2 (.inl rfl)⟩⟩

/-- a line that is said -/
def saidLine : DialogLine := ⟨⟨"Ann", "one", .display⟩, 0, none⟩

/-- the line in other words: its content in front, without the line number and with an added member -/
def saidWording : Json.Wording :=
  let detail := [("mood", .real false), ("blockIndex", .nat 0), ("displayMode", .text "Display"), ("content", .text "one"),
    ("speakerName", .text "Ann")]
  ⟨[("detail", .object detail), ("by", .str none), ("type", .text "DialogLine")], detail⟩

theorem saidLine_restated : (Notification.dialogLine saidLine).Restated saidWording where
  detail := by
    rintro _ ⟨⟩
    refine ⟨by unfold Json.KnownOnce; decide, ?_⟩
    simp only [DialogLine.members, List.forall_mem_cons]
    exact ⟨.inl rfl, .inl rfl, .inl rfl, .inl rfl, .inr ⟨rfl, rfl⟩, List.forall_mem_nil _⟩
  document := ⟨by unfold Json.KnownOnce; decide,
    List.forall_mem_cons.2 ⟨.inl rfl, List.forall_mem_singleton.2 (.inl rfl)⟩⟩

/-- the text of the result: its numeral and its lone surrogate could not be kept -/
def offeredText : String :=
  "\x7b\"note\":1e309,\"directives\":[" ++
    "\x7b\"args\":\x7b\"layer\":\"background\",\"mood\":0.0\x7d,\"type\":\"ShowImage\"\x7d," ++
    "\x7b\"type\":\"Branch\",\"by\":\"\\ud800\",\"args\":\x7b\"mood\":1e309,\"choices\":[\"on\",\"off\"]\x7d\x7d" ++
    "],\"next\":\"WaitBranch\"\x7d"

/-- the text of the line -/
def saidText : String :=
  "\x7b\"detail\":\x7b\"mood\":0.0,\"blockIndex\":0,\"displayMode\":\"Display\",\"content\":\"one\"," ++
    "\"speakerName\":\"Ann\"\x7d,\"by\":\"\\ud800\",\"type\":\"DialogLine\"\x7d"

/-- both are decoded to what they were -/
theorem reworded_messages_read :
    Json.decode StepResult.ofJson (Json.ofText offeredText) = .ok offeredResult ∧
    Json.decode (Notification.ofJson 0) (Json.ofText saidText) = .ok (.dialogLine saidLine) := by
  obtain ⟨-, hresults, hnotifications, -⟩ := messages_survive_rewording
  -- the value of each text is known, for the text is what is written for it
  have hoffered : Json.read (Json.ofText offeredText) = .ok (.object offeredMembers) := by
    have htext : offeredText = (Json.object offeredMembers).compact := by decide +kernel
    rw [htext, Json.ofText_compact, Json.read_render Json.Layout.airy_compact]
  have hsaid : Json.read (Json.ofText saidText) = .ok (.object saidWording.members) := by
    have htext : saidText = (Json.object saidWording.members).compact := by decide +kernel
    rw [htext, Json.ofText_compact, Json.read_render Json.Layout.airy_compact]
  have hfits : (Notification.dialogLine saidLine).Fits := ⟨by decide, by rintro n ⟨⟩⟩
  constructor
  · rw [hresults offeredResult offeredMembers offeredWordings _ offeredResult_restated hoffered]
    exact if_pos (by decide +kernel)
  · rw [hnotifications (.dialogLine saidLine) saidWording _ hfits saidLine_restated hsaid]
    exact if_pos (by decide +kernel)

/-- its document without the line number, and with this text behind the other members -/
def saidLineText (added : String) : String :=
  "\x7b\"type\":\"DialogLine\",\"detail\":\x7b\"speakerName\":\"Ann\",\"content\":\"one\"," ++
    "\"displayMode\":\"Display\",\"blockIndex\":0" ++ added ++ "\x7d\x7d"

/-- A dialog line is not decoded when a member is added whose number is too large to be kept. -/
theorem added_member_refused :
    Json.decode (Notification.ofJson 0) (Json.ofText (saidLineText "")) = .ok (.dialogLine saidLine) ∧
    Json.decode (Notification.ofJson 0) (Json.ofText (saidLineText ",\"mood\":1e300")) = .ok (.dialogLine saidLine) ∧
    Json.decode (Notification.ofJson 0) (Json.ofText (saidLineText ",\"mood\":1e999")) =
      .error (.misfit .garbled (1, 120)) := by
  refine ⟨?_, ?_, ?_⟩ <;> decide +kernel

end VisualNovel
