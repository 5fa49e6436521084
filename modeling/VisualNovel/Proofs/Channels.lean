/-
The stage, channel by channel.

Background, portrait and music are three channels, and a notification writes to some of them and leaves the others alone.
`Writes` is the table of writers: which tags with how many texts write to which channel, and what. It speaks of tags and
texts, not of the typed view, whose own table is `Asks`.

- `command_asks`: the typed view of an instruction is what its tag and texts ask for.
- `Writes.hear` and `hear_unwritten`: after a notification a channel has what was written to it, or what it had before.
- `Decided`: the last writer decides, and a channel without one is empty.
- `last_writer_decides`: so it is for every channel of the stage after any notifications, from an empty stage. The run is
  by induction from the right, since the last notification either decides or leaves the decision to those before it.
-/
import Mathlib.Tactic
import VisualNovel.Stage

namespace VisualNovel

/-! ## The typed view -/

/-- the known tags, with the number of texts that each needs -/
def Kind.needs : List (String × Nat) :=
  [("PlayDialog", 0), ("ShowDecision", 0), ("PlayBgm", 0), ("PlaySe", 1), ("SetBgImg", 2), ("SetCharaImg", 2),
    ("ShowCg", 1), ("TransitionToGraphics", 4), ("TransitionToGraphicsFade", 4)]

/-- what an instruction asks for, by its tag and its texts -/
inductive Asks : Resolved → Command → Prop where
  | dialog {ps : List Int} {texts : List String} : Asks ⟨"PlayDialog", ps, texts⟩ (.dialog texts.head?)
  | decision {ps : List Int} {texts : List String} :
    Asks ⟨"ShowDecision", ps, texts⟩ (.decision (texts.filter (· ≠ "")))
  | playBgm {ps : List Int} {texts : List String} : Asks ⟨"PlayBgm", ps, texts⟩ (.playBgm texts.head?)
  | playSe {ps : List Int} {name : String} {rest : List String} : Asks ⟨"PlaySe", ps, name :: rest⟩ (.playSe name)
  | setBackground {ps : List Int} {folder name : String} {rest : List String} :
    Asks ⟨"SetBgImg", ps, folder :: name :: rest⟩ (.setBackground (Image.ofTexts folder name))
  | setPortrait {ps : List Int} {folder name : String} {rest : List String} :
    Asks ⟨"SetCharaImg", ps, folder :: name :: rest⟩ (.setPortrait (Image.ofTexts folder name))
  | showCg {ps : List Int} {name : String} {rest : List String} : Asks ⟨"ShowCg", ps, name :: rest⟩ (.showCg name)
  | transition {tag : String} {ps : List Int} {x y folder name : String} {rest : List String}
    (htag : tag = "TransitionToGraphics" ∨ tag = "TransitionToGraphicsFade") :
    Asks ⟨tag, ps, x :: y :: folder :: name :: rest⟩ (.transition (Image.ofTexts folder name))
  /-- a known tag with too few texts -/
  | short {tag : String} {ps : List Int} {texts : List String} {n : Nat} (hneeds : (tag, n) ∈ Kind.needs)
    (hshort : texts.length < n) : Asks ⟨tag, ps, texts⟩ (.incomplete (.ofTag tag))
  /-- any other tag -/
  | unknown {tag : String} {ps : List Int} {texts : List String} (htag : ∀ n, (tag, n) ∉ Kind.needs) :
    Asks ⟨tag, ps, texts⟩ (.unknown tag)

theorem Kind.ofTag_unknown {tag : String} (htag : ∀ n, (tag, n) ∉ Kind.needs) : Kind.ofTag tag = .unknown tag := by
  simp only [Kind.needs, List.mem_cons, List.not_mem_nil, Prod.mk.injEq, or_false, not_or, not_and] at htag
  unfold Kind.ofTag
  split <;> simp_all

/-- **The typed view of an instruction is what its tag and texts ask for.** -/
theorem command_asks (r : Resolved) : Asks r r.command := by
  obtain ⟨tag, ps, texts⟩ := r
  by_cases htag : ∃ n, (tag, n) ∈ Kind.needs
  · obtain ⟨n, hn⟩ := htag
    simp only [Kind.needs, List.mem_cons, List.not_mem_nil, Prod.mk.injEq, or_false] at hn
    rcases hn with ⟨rfl, -⟩ | ⟨rfl, -⟩ | ⟨rfl, -⟩ | ⟨rfl, -⟩ | ⟨rfl, -⟩ | ⟨rfl, -⟩ | ⟨rfl, -⟩ | ⟨rfl, -⟩ | ⟨rfl, -⟩
    · exact .dialog
    · exact .decision
    · exact .playBgm
    · rcases texts with _ | ⟨name, rest⟩
      case cons => exact .playSe
      all_goals exact .short (n := 1) (by decide) (by simp)
    · rcases texts with _ | ⟨folder, _ | ⟨name, rest⟩⟩
      case cons.cons => exact .setBackground
      all_goals exact .short (n := 2) (by decide) (by simp)
    · rcases texts with _ | ⟨folder, _ | ⟨name, rest⟩⟩
      case cons.cons => exact .setPortrait
      all_goals exact .short (n := 2) (by decide) (by simp)
    · rcases texts with _ | ⟨name, rest⟩
      case cons => exact .showCg
      all_goals exact .short (n := 1) (by decide) (by simp)
    · rcases texts with _ | ⟨x, _ | ⟨y, _ | ⟨folder, _ | ⟨name, rest⟩⟩⟩⟩
      case cons.cons.cons.cons => exact .transition (Or.inl rfl)
      all_goals exact .short (n := 4) (by decide) (by simp)
    · rcases texts with _ | ⟨x, _ | ⟨y, _ | ⟨folder, _ | ⟨name, rest⟩⟩⟩⟩
      case cons.cons.cons.cons => exact .transition (Or.inr rfl)
      all_goals exact .short (n := 4) (by decide) (by simp)
  · rw [not_exists] at htag
    have hkind : Kind.ofTag tag = .unknown tag := Kind.ofTag_unknown htag
    simp only [Resolved.command, Resolved.command?, Resolved.kind, hkind, Option.getD_some]
    exact .unknown htag

/-! ## Writers -/

/-- what of a presentation notifications write to -/
inductive Channel where
  | background
  | portrait
  | bgm
  deriving DecidableEq, Repr

/-- what a presentation has on a channel -/
def Presentation.on (p : Presentation) : Channel → Option String
  | .background => p.background
  | .portrait => p.portrait
  | .bgm => p.bgm

/-- what a notification writes to a channel -/
inductive Writes (a : Assets) : Channel → Notification → Option String → Prop where
  | background {ps : List Int} {folder name : String} {rest : List String} (hfolder : folder ≠ "0")
    (hname : name ≠ "0") :
    Writes a .background (.instruction ⟨"SetBgImg", ps, folder :: name :: rest⟩) (some (a.background ⟨folder, name⟩))
  | noBackground {ps : List Int} {folder name : String} {rest : List String} (hnone : folder = "0" ∨ name = "0") :
    Writes a .background (.instruction ⟨"SetBgImg", ps, folder :: name :: rest⟩) none
  | portrait {ps : List Int} {folder name : String} {rest : List String} (hfolder : folder ≠ "0") (hname : name ≠ "0") :
    Writes a .portrait (.instruction ⟨"SetCharaImg", ps, folder :: name :: rest⟩) (some (a.portrait ⟨folder, name⟩))
  | noPortrait {ps : List Int} {folder name : String} {rest : List String} (hnone : folder = "0" ∨ name = "0") :
    Writes a .portrait (.instruction ⟨"SetCharaImg", ps, folder :: name :: rest⟩) none
  /-- a full-screen picture writes to two channels -/
  | cg {ps : List Int} {name : String} {rest : List String} :
    Writes a .background (.instruction ⟨"ShowCg", ps, name :: rest⟩) (some (a.cg name))
  | cgPortrait {ps : List Int} {name : String} {rest : List String} :
    Writes a .portrait (.instruction ⟨"ShowCg", ps, name :: rest⟩) none
  | transition {tag : String} {ps : List Int} {x y folder name : String} {rest : List String}
    (htag : tag = "TransitionToGraphics" ∨ tag = "TransitionToGraphicsFade") (hfolder : folder ≠ "0")
    (hname : name ≠ "0") :
    Writes a .background (.instruction ⟨tag, ps, x :: y :: folder :: name :: rest⟩)
      (some (a.background ⟨folder, name⟩))
  /-- a transition to no background is one to the black screen -/
  | blackout {tag : String} {ps : List Int} {x y folder name : String} {rest : List String}
    (htag : tag = "TransitionToGraphics" ∨ tag = "TransitionToGraphicsFade") (hnone : folder = "0" ∨ name = "0") :
    Writes a .background (.instruction ⟨tag, ps, x :: y :: folder :: name :: rest⟩) (some a.blackScreen)
  | track {ps : List Int} {track : String} {rest : List String} (htrack : track ≠ "") :
    Writes a .bgm (.instruction ⟨"PlayBgm", ps, track :: rest⟩) (some track)
  /-- no track, or one without a name -/
  | silence {ps : List Int} {texts : List String} (hnone : texts.head? = none ∨ texts.head? = some "") :
    Writes a .bgm (.instruction ⟨"PlayBgm", ps, texts⟩) none
  | restoredBackground {background portrait : Option String} :
    Writes a .background (.restoreGraphics background portrait) background
  | restoredPortrait {background portrait : Option String} :
    Writes a .portrait (.restoreGraphics background portrait) portrait
  | restoredTrack {track : Option String} : Writes a .bgm (.restoreMusic track) track

theorem Image.ofTexts_some {folder name : String} (hfolder : folder ≠ "0") (hname : name ≠ "0") :
    Image.ofTexts folder name = some ⟨folder, name⟩ := if_neg (not_or.2 ⟨hfolder, hname⟩)

theorem Image.ofTexts_none {folder name : String} (hnone : folder = "0" ∨ name = "0") :
    Image.ofTexts folder name = none := if_pos hnone

theorem Image.named_or_not (folder name : String) :
    (folder = "0" ∨ name = "0") ∨ folder ≠ "0" ∧ name ≠ "0" := by
  rw [← not_or]
  exact em _

section Channels

variable {a : Assets} {ch : Channel} {n : Notification} {v : Option String}

namespace Writes

theorem exists_background (ps : List Int) (folder name : String) (rest : List String) :
    ∃ v, Writes a .background (.instruction ⟨"SetBgImg", ps, folder :: name :: rest⟩) v := by
  rcases Image.named_or_not folder name with hnone | ⟨hfolder, hname⟩
  · exact ⟨none, .noBackground hnone⟩
  · exact ⟨some (a.background ⟨folder, name⟩), .background hfolder hname⟩

theorem exists_portrait (ps : List Int) (folder name : String) (rest : List String) :
    ∃ v, Writes a .portrait (.instruction ⟨"SetCharaImg", ps, folder :: name :: rest⟩) v := by
  rcases Image.named_or_not folder name with hnone | ⟨hfolder, hname⟩
  · exact ⟨none, .noPortrait hnone⟩
  · exact ⟨some (a.portrait ⟨folder, name⟩), .portrait hfolder hname⟩

theorem exists_transition {tag : String} (htag : tag = "TransitionToGraphics" ∨ tag = "TransitionToGraphicsFade")
    (ps : List Int) (x y folder name : String) (rest : List String) :
    ∃ v, Writes a .background (.instruction ⟨tag, ps, x :: y :: folder :: name :: rest⟩) v := by
  rcases Image.named_or_not folder name with hnone | ⟨hfolder, hname⟩
  · exact ⟨some a.blackScreen, .blackout htag hnone⟩
  · exact ⟨some (a.background ⟨folder, name⟩), .transition htag hfolder hname⟩

theorem exists_bgm (ps : List Int) (texts : List String) :
    ∃ v, Writes a .bgm (.instruction ⟨"PlayBgm", ps, texts⟩) v := by
  rcases texts with _ | ⟨track, rest⟩
  · exact ⟨none, .silence (Or.inl rfl)⟩
  · by_cases htrack : track = ""
    · exact ⟨none, .silence (Or.inr (congrArg some htrack))⟩
    · exact ⟨some track, .track htrack⟩

end Writes

/-- **After a notification a channel has what was written to it.** -/
theorem Writes.hear (h : Writes a ch n v) (p : Presentation) : (p.hear a n).on ch = v := by
  cases h with
  | @background ps folder name rest hfolder hname =>
    change (Image.ofTexts folder name).map a.background = _
    rw [Image.ofTexts_some hfolder hname]
    rfl
  | @noBackground ps folder name rest hnone =>
    change (Image.ofTexts folder name).map a.background = _
    rw [Image.ofTexts_none hnone]
    rfl
  | @portrait ps folder name rest hfolder hname =>
    change (Image.ofTexts folder name).map a.portrait = _
    rw [Image.ofTexts_some hfolder hname]
    rfl
  | @noPortrait ps folder name rest hnone =>
    change (Image.ofTexts folder name).map a.portrait = _
    rw [Image.ofTexts_none hnone]
    rfl
  | cg => rfl
  | cgPortrait => rfl
  | @transition tag ps x y folder name rest htag hfolder hname =>
    have hblack : some (((Image.ofTexts folder name).map a.background).getD a.blackScreen) =
        some (a.background ⟨folder, name⟩) := by
      rw [Image.ofTexts_some hfolder hname]
      rfl
    rcases htag with rfl | rfl <;> exact hblack
  | @blackout tag ps x y folder name rest htag hnone =>
    have hblack : some (((Image.ofTexts folder name).map a.background).getD a.blackScreen) = some a.blackScreen := by
      rw [Image.ofTexts_none hnone]
      rfl
    rcases htag with rfl | rfl <;> exact hblack
  | @track ps track rest htrack =>
    change (some track).filter (· ≠ "") = some track
    simp [htrack]
  | @silence ps texts hnone =>
    change texts.head?.filter (· ≠ "") = none
    rcases hnone with hnone | hnone <;> simp [hnone]
  | restoredBackground => rfl
  | restoredPortrait => rfl
  | restoredTrack => rfl

/-- **A channel that is not written to has what it had before.** -/
theorem hear_unwritten (h : ∀ v, ¬ Writes a ch n v) (p : Presentation) : (p.hear a n).on ch = p.on ch := by
  cases n with
  | instruction r =>
    have hasks := command_asks r
    change (p.perform a r.command).on ch = p.on ch
    generalize r.command = c at hasks ⊢
    -- a command either leaves the channel alone or its instruction is among the writers
    cases hasks with
    | @setBackground ps folder name rest =>
      cases ch with
      | background => exact absurd (Writes.exists_background ps folder name rest) (not_exists.2 h)
      | _ => rfl
    | @setPortrait ps folder name rest =>
      cases ch with
      | portrait => exact absurd (Writes.exists_portrait ps folder name rest) (not_exists.2 h)
      | _ => rfl
    | showCg =>
      cases ch with
      | background => exact absurd .cg (h _)
      | portrait => exact absurd .cgPortrait (h _)
      | bgm => rfl
    | @transition tag ps x y folder name rest htag =>
      cases ch with
      | background => exact absurd (Writes.exists_transition htag ps x y folder name rest) (not_exists.2 h)
      | _ => rfl
    | @playBgm ps texts =>
      cases ch with
      | bgm => exact absurd (Writes.exists_bgm ps texts) (not_exists.2 h)
      | _ => rfl
    | dialog => rfl
    | decision => rfl
    | playSe => rfl
    | short => rfl
    | unknown => rfl
  | restoreGraphics background portrait =>
    cases ch with
    | background => exact absurd .restoredBackground (h _)
    | portrait => exact absurd .restoredPortrait (h _)
    | bgm => rfl
  | restoreMusic track =>
    cases ch with
    | bgm => exact absurd .restoredTrack (h _)
    | _ => rfl
  | dialogLine l => rfl
  | decision labels => rfl
  | resetLineCounters => rfl

/-- an instruction with too few texts is passed over -/
theorem hear_short {tag : String} {ps : List Int} {texts : List String} {k : Nat} (hneeds : (tag, k) ∈ Kind.needs)
    (hshort : texts.length < k) (p : Presentation) : p.hear a (.instruction ⟨tag, ps, texts⟩) = p := by
  have hasks := command_asks ⟨tag, ps, texts⟩
  change p.perform a (Resolved.command ⟨tag, ps, texts⟩) = p
  generalize Resolved.command ⟨tag, ps, texts⟩ = c at hasks ⊢
  simp only [Kind.needs, List.mem_cons, List.not_mem_nil, Prod.mk.injEq, or_false] at hneeds
  cases hasks with
  | short => rfl
  | unknown => rfl
  | dialog => rfl
  | decision => rfl
  | playSe => rfl
  | transition htag =>
    rcases htag with rfl | rfl <;> simp at hneeds hshort <;> omega
  | _ =>
    -- there are as many texts as the tag needs
    simp at hneeds hshort
    omega

/-! ## The last writer -/

/-- the last of the notifications that write to a channel decides what is on it; without one there is nothing -/
inductive Decided (a : Assets) (ch : Channel) : List Notification → Option String → Prop where
  | untouched {ns : List Notification} (hnone : ∀ n ∈ ns, ∀ v, ¬ Writes a ch n v) : Decided a ch ns none
  | last {before rest : List Notification} {n : Notification} {v : Option String} (hn : Writes a ch n v)
    (hrest : ∀ m ∈ rest, ∀ w, ¬ Writes a ch m w) : Decided a ch (before ++ n :: rest) v

/-- a channel keeps what it has while nobody writes to it -/
theorem hear_all_unwritten {ns : List Notification} (h : ∀ n ∈ ns, ∀ v, ¬ Writes a ch n v) (p : Presentation) :
    (ns.foldl (Presentation.hear a) p).on ch = p.on ch := by
  induction ns generalizing p with
  | nil => rfl
  | cons n ns ih =>
    rw [List.foldl_cons, ih fun m hm => h m (List.mem_cons_of_mem n hm)]
    exact hear_unwritten (h n List.mem_cons_self) p

theorem Decided.on_after {ns : List Notification} (h : Decided a ch ns v) : (Presentation.after a ns).on ch = v := by
  cases h with
  | untouched hnone =>
    rw [Presentation.after, hear_all_unwritten hnone]
    cases ch <;> rfl
  | last hn hrest =>
    rw [Presentation.after, List.foldl_append, List.foldl_cons, hear_all_unwritten hrest]
    exact hn.hear _

theorem after_decided (a : Assets) (ch : Channel) (ns : List Notification) :
    Decided a ch ns ((Presentation.after a ns).on ch) := by
  induction ns using List.reverseRecOn with
  | nil =>
    have hempty : (Presentation.after a []).on ch = none := by cases ch <;> rfl
    rw [hempty]
    exact .untouched (List.forall_mem_nil _)
  | append_singleton ns n ih =>
    rw [Presentation.after_concat]
    by_cases hn : ∃ v, Writes a ch n v
    · obtain ⟨v, hv⟩ := hn
      rw [hv.hear]
      exact .last hv (List.forall_mem_nil _)
    · rw [not_exists] at hn
      rw [hear_unwritten hn]
      -- the last notification leaves the decision to those before it
      generalize (Presentation.after a ns).on ch = v at ih
      cases ih with
      | untouched hnone =>
        refine .untouched fun m hm => ?_
        rcases List.mem_append.1 hm with hm | hm
        · exact hnone m hm
        · exact List.mem_singleton.1 hm ▸ hn
      | @last before rest m _ hm hrest =>
        rw [List.append_assoc, List.cons_append]
        refine .last hm fun k hk => ?_
        rcases List.mem_append.1 hk with hk | hk
        · exact hrest k hk
        · exact List.mem_singleton.1 hk ▸ hn

end Channels

/-- **The last writer decides every channel.** After any notifications a stage that was empty has on each channel what
the last writer of that channel wrote, and nothing where there was none. A notification that is no writer of a channel
leaves it alone, and an instruction with too few texts changes nothing. The typed view of an instruction is built without
looking beyond its texts. -/
theorem last_writer_decides (a : Assets) (ns : List Notification) :
    (∀ ch v, Decided a ch ns v ↔ (Presentation.after a ns).on ch = v) ∧
    (∀ ch n p, (∀ v, ¬ Writes a ch n v) → (Presentation.hear a p n).on ch = p.on ch) ∧
    (∀ tag ps texts k p, (tag, k) ∈ Kind.needs → texts.length < k →
      Presentation.hear a p (.instruction ⟨tag, ps, texts⟩) = p) ∧
    ∀ r : Resolved, r.command? = some r.command ∧ Asks r r.command := by
  refine ⟨fun ch v => ⟨Decided.on_after, ?_⟩, fun ch n p h => hear_unwritten h p,
    fun tag ps texts k p hneeds hshort => hear_short hneeds hshort p, fun r => ⟨r.command?_eq, command_asks r⟩⟩
  rintro rfl
  exact after_decided a ch ns

/-- a room with a portrait and music, a picture over both, and then instructions that write nothing or less -/
def gallery : List Notification :=
  [.instruction ⟨"SetBgImg", [], ["ROOM", "A01"]⟩, .instruction ⟨"SetCharaImg", [], ["MAM", "smile"]⟩,
    .instruction ⟨"PlayBgm", [], ["M03"]⟩, .instruction ⟨"ShowCg", [], ["ev01"]⟩,
    .instruction ⟨"SetBgImg", [], ["HALL"]⟩, .resetLineCounters, .instruction ⟨"PlayBgm", [], [""]⟩]

/-- the picture stays in the background, the portrait and the music are gone -/
theorem gallery_shows :
    Decided .standard .background gallery (some (Assets.standard.cg "ev01")) ∧
    Decided .standard .portrait gallery none ∧ Decided .standard .bgm gallery none ∧
    (∀ v, ¬ Writes .standard .portrait .resetLineCounters v) ∧
    (Presentation.hear .standard ⟨none, some "MAM", none⟩ .resetLineCounters).on .portrait = some "MAM" ∧
    Presentation.hear .standard ⟨none, some "MAM", none⟩ (.instruction ⟨"SetBgImg", [], ["HALL"]⟩) =
      ⟨none, some "MAM", none⟩ := by
  obtain ⟨hdecided, hother, hshort, -⟩ := last_writer_decides .standard gallery
  exact ⟨(hdecided .background _).2 rfl, (hdecided .portrait _).2 rfl, (hdecided .bgm _).2 rfl, nofun,
    hother .portrait _ ⟨none, some "MAM", none⟩ nofun,
    hshort "SetBgImg" [] ["HALL"] 2 ⟨none, some "MAM", none⟩ (by decide) (by decide)⟩

end VisualNovel
