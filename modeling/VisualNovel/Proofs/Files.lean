/-
File systems that are maps.

- `Route.steps_join`: one more name at the end of a route is one more step, whatever the route is and however it ends. So
  the file of a key lies directly in its directory (`Route.steps_file`), and no two keys have one file
  (`Route.file_injective`).
- `FileSystem.IsMap`: on the routes in question the file system does what a map from paths to bytes does. `files` says for
  which map its contents stand, when they are `sound`; a file system that keeps more than files asks for what it needs there.
- `Disk.system_isMap`: the disk is such a file system, for the files of a directory whose name and keys are not too long.
-/
import Mathlib.Logic.Function.Basic
import Mathlib.Tactic.SplitIfs
import VisualNovel.Store.Disk

namespace VisualNovel

/-! ## Routes -/

/-- keys that name files: not empty, and made of ASCII letters, digits, underscores and hyphens -/
theorem isFileKey_iff {key : String} : isFileKey key ↔ key ≠ "" ∧ ∀ c ∈ key.toList,
    ('A' ≤ c ∧ c ≤ 'Z') ∨ ('a' ≤ c ∧ c ≤ 'z') ∨ ('0' ≤ c ∧ c ≤ '9') ∨ c = '_' ∨ c = '-' := by
  have hchar : ∀ c : Char, (c.isAlphanum || c == '_' || c == '-') = true ↔
      ('A' ≤ c ∧ c ≤ 'Z') ∨ ('a' ≤ c ∧ c ≤ 'z') ∨ ('0' ≤ c ∧ c ≤ '9') ∨ c = '_' ∨ c = '-' := by
    intro c
    have hranges : c.isAlphanum = ((decide ('A' ≤ c ∧ c ≤ 'Z') || (decide ('a' ≤ c) && decide (c ≤ 'z'))) ||
        (decide ('0' ≤ c) && decide (c ≤ '9'))) := rfl
    simp only [hranges, Bool.or_eq_true, Bool.and_eq_true, decide_eq_true_eq, beq_iff_eq, or_assoc]
  simp only [isFileKey, Bool.and_eq_true, Bool.not_eq_true', String.isEmpty_eq_false_iff, List.all_eq_true, hchar]

namespace Route

/-- a single name: not empty and without a slash -/
def IsName (name : String) : Prop := name ≠ "" ∧ '/' ∉ name.toList

/-- the names between slashes -/
def names (cs : List Char) : List String := ((cs.splitOn '/').map String.ofList).filter (· ≠ "")

theorem steps_eq (r : Route) : r.steps = (if r.text.startsWith "/" then ["/"] else []) ++ names r.text.toList := rfl

theorem names_nil : names [] = [] := by simp [names]

theorem names_append (cs ds : List Char) : names (cs ++ '/' :: ds) = names cs ++ names ds := by
  simp only [names, List.splitOn_append_cons_self, List.map_append, List.filter_append]

theorem names_of_isName {name : String} (hname : IsName name) : names name.toList = [name] := by
  rw [names, List.splitOn_eq_singleton hname.2]
  simp [hname.1]

theorem startsWith_append {a : String} (ha : a ≠ "") (b : String) :
    (a ++ b).startsWith "/" = a.startsWith "/" := by
  rw [Bool.eq_iff_iff, String.startsWith_string_iff, String.startsWith_string_iff, String.toList_append]
  cases h : a.toList with
  | nil => exact absurd (String.toList_inj.1 h) ha
  | cons c cs => simp

theorem IsName.not_startsWith {name : String} (hname : IsName name) : name.startsWith "/" = false := by
  rw [String.startsWith_string_eq_false_iff]
  rintro ⟨rest, hrest⟩
  exact hname.2 (hrest ▸ List.mem_cons_self)

theorem steps_of_isName {name : String} (hname : IsName name) : (⟨name⟩ : Route).steps = [name] := by
  simp only [steps_eq, hname.not_startsWith, names_of_isName hname, Bool.false_eq_true, if_false, List.nil_append]

/-- **One more name is one more step.** -/
theorem steps_join (r : Route) {name : String} (hname : IsName name) : (r.join name).steps = r.steps ++ [name] := by
  have hnames := names_of_isName hname
  unfold join
  split_ifs with h
  · by_cases hempty : r.text = ""
    · have hroute : r.steps = [] := by simp [steps_eq, hempty, names_nil]
      rw [hroute, hempty, String.empty_append, List.nil_append]
      exact steps_of_isName hname
    · -- the slash at the end leaves an empty name, which does not count
      have hslash : ['/'] <:+ r.text.toList := by
        simpa [← String.endsWith_toSlice] using h.resolve_left hempty
      obtain ⟨front, hfront⟩ := hslash
      have hlast : r.text.toList = front ++ '/' :: [] := hfront.symm
      have hjoined : (r.text ++ name).toList = front ++ '/' :: name.toList := by
        rw [String.toList_append, hlast, List.append_assoc, List.cons_append, List.nil_append]
      rw [steps_eq, steps_eq, hjoined, hlast, names_append, names_append, names_nil, List.append_nil, hnames,
        startsWith_append hempty, List.append_assoc]
  · obtain ⟨hempty, -⟩ := not_or.1 h
    have hslash : (r.text ++ "/" ++ name).toList = r.text.toList ++ '/' :: name.toList := by simp
    rw [steps_eq, steps_eq, hslash, names_append, hnames, String.append_assoc, startsWith_append hempty,
      List.append_assoc]

theorem isName_of_isFileKey {key : String} (hkey : isFileKey key) : IsName (key ++ ".json") := by
  obtain ⟨hempty, hchars⟩ := isFileKey_iff.1 hkey
  refine ⟨fun h => hempty (String.append_eq_empty_iff.1 h).1, fun hslash => ?_⟩
  rw [String.toList_append, List.mem_append] at hslash
  rcases hslash with hslash | hslash
  · exact absurd (hchars _ hslash) (by decide)
  · exact absurd hslash (by decide)

/-- the file of a key lies directly in its directory -/
theorem steps_file (base : Route) {key : String} (hkey : isFileKey key) :
    (base.file key).steps = base.steps ++ [key ++ ".json"] := steps_join base (isName_of_isFileKey hkey)

/-- no two keys have one file -/
theorem file_injective (base : Route) {key other : String} (hkey : isFileKey key) (hother : isFileKey other)
    (h : (base.file key).steps = (base.file other).steps) : key = other := by
  rw [steps_file base hkey, steps_file base hother, List.append_right_inj] at h
  exact (String.append_left_inj _).1 (List.singleton_inj.1 h)

end Route

/-! ## Maps from paths to bytes -/

/-- on these routes the file system does what a map from paths to bytes does, once the base directory has been made;
`files` is the map that contents stand for, when they are `sound` -/
structure FileSystem.IsMap {σ : Type} (fs : FileSystem σ) (base : Route) (routes : Route → Prop) (sound : σ → Prop)
    (files : σ → List String → Option ByteArray) : Prop where
  read : ∀ {r s}, routes r → sound s → fs.read r s = (files s r.steps).elim (.error .missing) .ok
  make : ∀ {s}, sound s → ∃ made, fs.makeDirectories base s = (.ok (), made) ∧ sound made ∧ files made = files s
  write : ∀ {r s}, routes r → sound s → ∀ bytes, ∃ after,
    fs.write r bytes (fs.makeDirectories base s).2 = (.ok (), after) ∧ sound after ∧
      files after = Function.update (files s) r.steps (some bytes)
  delete : ∀ {r s}, routes r → sound s → ∃ after,
    fs.delete r s = ((files s r.steps).elim (.error .missing) fun _ => .ok (), after) ∧ sound after ∧
      files after = Function.update (files s) r.steps none

/-! ## The disk -/

namespace Disk

/-- the bytes of the file at a place -/
def bytesAt (d : Disk) (p : Place) : Option ByteArray :=
  match d.node? p with
  | some (.file bytes) => some bytes
  | _ => none

/-- the directory of this name is there, or it is not and nothing is in it; no directory has the name of a key's file -/
structure Keeps (name : String) (d : Disk) : Prop where
  base : d.node? [name] = some .directory ∨ d.node? [name] = none ∧ ∀ file, d.node? [name, file] = none
  files : ∀ key, isFileKey key → d.node? [name, key ++ ".json"] ≠ some .directory

/-- the routes of the files of a directory, those with a name that is not too long -/
def Short (name : String) (r : Route) : Prop :=
  ∃ key, isFileKey key ∧ (key ++ ".json").utf8ByteSize ≤ nameMax ∧ r = Route.file ⟨name⟩ key

/-- a name for a directory: it leads there, and is not too long -/
structure Names (name : String) : Prop where
  isName : Route.IsName name
  noDot : name ≠ "."
  noDots : name ≠ ".."
  short : name.utf8ByteSize ≤ nameMax

theorem node?_assign {p : Place} (hp : p.isStanding = false) (d : Disk) (node : Node) (q : Place) :
    (⟨Assoc.assign p node d.nodes⟩ : Disk).node? q = if q = p then some node else d.node? q := by
  simp only [node?, Assoc.lookup_assign]
  by_cases hq : q = p
  · rw [hq, hp, if_pos rfl, if_pos rfl, if_neg Bool.false_ne_true]
  · rw [if_neg hq, if_neg hq]

theorem node?_discard {p : Place} (hp : p.isStanding = false) (d : Disk) (q : Place) :
    (⟨Assoc.discard p d.nodes⟩ : Disk).node? q = if q = p then none else d.node? q := by
  simp only [node?, Assoc.lookup_discard]
  by_cases hq : q = p
  · rw [hq, hp, if_pos rfl, if_pos rfl, if_neg Bool.false_ne_true]
  · rw [if_neg hq, if_neg hq]

variable {name file : String} {d : Disk}

theorem Names.enter (hname : Names name) (p : Place) : p.enter name = p ++ [name] := by
  simp only [Place.enter, hname.noDot, hname.noDots, if_false]

theorem Names.not_standing (hname : Names name) (p : Place) (hp : p ≠ []) : (p ++ [name]).isStanding = false := by
  have hlong : p ++ [name] ≠ ["/"] := fun h => hp (List.append_eq_singleton_iff.1 h |>.elim (·.1) fun h => by simp at h)
  simp [Place.isStanding, hlong, hname.noDots]

theorem Names.standing (hname : Names name) : Place.isStanding [name] = false := by
  have hroot : name ≠ "/" := fun h => hname.isName.2 (by rw [h]; decide)
  simp [Place.isStanding, hroot, hname.noDots]

theorem Names.follow (hname : Names name) {p : Place} (hp : d.node? p = some .directory) :
    d.follow p [name] = .ok (p ++ [name]) := by
  have hshort : ¬ nameMax < name.utf8ByteSize := Nat.not_lt.2 hname.short
  simp only [Disk.follow, hp, hshort, if_false, hname.enter]

theorem Names.fits_route (hname : Names name) : ¬ routeMax < name.utf8ByteSize :=
  Nat.not_lt.2 (Nat.le_trans hname.short (by decide))

theorem Names.steps_file (hname : Names name) {key : String} (hkey : isFileKey key) :
    (Route.file ⟨name⟩ key).steps = [name, key ++ ".json"] := by
  rw [Route.steps_file _ hkey, Route.steps_of_isName hname.isName, List.singleton_append]

/-- making a directory whose name is good makes it if it is not there, and does nothing if it is -/
theorem Names.makeDirectories (hname : Names name) (hbase : ∀ bytes, d.node? [name] ≠ some (.file bytes)) :
    d.makeDirectories ⟨name⟩ = (.ok (),
      if d.node? [name] = none then ⟨Assoc.assign [name] .directory d.nodes⟩ else d) := by
  have hfollow : d.follow [] [name] = .ok [name] := hname.follow rfl
  rw [Disk.makeDirectories, if_neg hname.fits_route, Route.steps_of_isName hname.isName, makeAll, dif_neg (List.cons_ne_nil _ _)]
  cases hnode : d.node? [name] with
  | none => simp only [ensureDirectory, addDirectory, hfollow, hnode, if_true]
  | some node =>
    cases node with
    | file bytes => exact absurd hnode (hbase bytes)
    | directory => simp [ensureDirectory, addDirectory, isDirectory, hfollow, hnode]

theorem names_file {key : String} (hkey : isFileKey key) (hshort : (key ++ ".json").utf8ByteSize ≤ nameMax) :
    Names (key ++ ".json") := by
  have hlong : 5 ≤ (key ++ ".json").length := by
    rw [String.length_append]
    exact Nat.le_add_left 5 key.length
  refine ⟨Route.isName_of_isFileKey hkey, fun h => ?_, fun h => ?_, hshort⟩
  · rw [h] at hlong
    exact absurd hlong (by decide)
  · rw [h] at hlong
    exact absurd hlong (by decide)

/-- the route of a key's file names its directory and then the file -/
theorem locate_file (hname : Names name) {key : String} (hkey : isFileKey key)
    (hshort : (key ++ ".json").utf8ByteSize ≤ nameMax) :
    d.locate (Route.file ⟨name⟩ key) = d.follow [name] [key ++ ".json"] := by
  have hslash : ¬ (name = "" ∨ name.endsWith "/") := by
    rintro (h | h)
    · exact hname.isName.1 h
    · have hlast : ['/'] <:+ name.toList := by simpa [← String.endsWith_toSlice] using h
      exact hname.isName.2 (hlast.subset List.mem_cons_self)
  have htext : (Route.file ⟨name⟩ key).text = name ++ "/" ++ (key ++ ".json") := by
    rw [Route.file, Route.join, if_neg hslash]
  have hroute : ¬ routeMax < (Route.file ⟨name⟩ key).text.utf8ByteSize := by
    have hfirst := hname.short
    rw [htext, String.utf8ByteSize_append, String.utf8ByteSize_append]
    have hslash : "/".utf8ByteSize = 1 := rfl
    simp only [nameMax, routeMax] at *
    omega
  have hnameMax : ¬ nameMax < name.utf8ByteSize := Nat.not_lt.2 hname.short
  rw [Disk.locate, if_neg hroute, hname.steps_file hkey]
  simp [Disk.follow, node?, Place.isStanding, hnameMax, hname.enter]

/-! ### What is kept -/

theorem bytesAt_of_node? {p : Place} {after : Disk} (h : after.node? p = d.node? p) : after.bytesAt p = d.bytesAt p := by
  rw [bytesAt, bytesAt, h]

/-- the directory is there or is made, and it holds the files that it held -/
theorem Keeps.make (hname : Names name) (hd : Keeps name d) : ∃ made,
    d.makeDirectories ⟨name⟩ = (.ok (), made) ∧ Keeps name made ∧ made.node? [name] = some .directory ∧
      made.bytesAt = d.bytesAt := by
  have hfile : ∀ bytes, d.node? [name] ≠ some (.file bytes) := by
    intro bytes h
    obtain hbase | ⟨hbase, -⟩ := hd.base
    · exact absurd (hbase.symm.trans h) (by simp)
    · exact absurd (hbase.symm.trans h) (by simp)
  have hmade := hname.makeDirectories hfile
  obtain hbase | ⟨hbase, hnone⟩ := hd.base
  · rw [hbase, if_neg (by simp)] at hmade
    exact ⟨d, hmade, hd, hbase, rfl⟩
  · rw [hbase, if_pos rfl] at hmade
    have hnode := node?_assign hname.standing d .directory
    refine ⟨_, hmade, ⟨.inl ?_, fun key hkey => ?_⟩, ?_, ?_⟩
    · rw [hnode, if_pos rfl]
    · rw [hnode, if_neg (by simp)]
      exact hd.files key hkey
    · rw [hnode, if_pos rfl]
    · funext p
      by_cases hp : p = [name]
      · rw [bytesAt, bytesAt, hnode, if_pos hp, hp, hbase]
      · exact bytesAt_of_node? (by rw [hnode, if_neg hp])

/-- what lies where a key's file would lie is a file, or nothing -/
theorem Keeps.node?_file (hd : Keeps name d) {key : String} (hkey : isFileKey key) :
    d.node? [name, key ++ ".json"] = (d.bytesAt [name, key ++ ".json"]).map .file := by
  unfold bytesAt
  cases hnode : d.node? [name, key ++ ".json"] with
  | none => rfl
  | some node =>
    cases node with
    | file bytes => rfl
    | directory => exact absurd hnode (hd.files key hkey)

/-- the route of a key's file leads to its place, or the directory is missing and the file with it -/
theorem Keeps.locate (hname : Names name) (hd : Keeps name d) {key : String} (hkey : isFileKey key)
    (hshort : (key ++ ".json").utf8ByteSize ≤ nameMax) :
    d.locate (Route.file ⟨name⟩ key) = .ok [name, key ++ ".json"] ∧ d.node? [name] = some .directory ∨
      d.locate (Route.file ⟨name⟩ key) = .error .missing ∧ d.bytesAt [name, key ++ ".json"] = none := by
  rw [locate_file hname hkey hshort]
  obtain hbase | ⟨hbase, hnone⟩ := hd.base
  · exact .inl ⟨(names_file hkey hshort).follow hbase, hbase⟩
  · refine .inr ⟨by simp only [Disk.follow, hbase], ?_⟩
    rw [bytesAt, hnone]

/-- the directory stays as it is when something is put at, or removed from, another place -/
theorem Keeps.change {place : Place} {after : Disk} (hd : Keeps name d) (entry : Option ByteArray)
    (hbase : d.node? [name] = some .directory) (hplace : place ≠ [name])
    (hafter : ∀ p, after.node? p = if p = place then entry.map .file else d.node? p) :
    Keeps name after ∧ after.bytesAt = Function.update d.bytesAt place entry := by
  refine ⟨⟨.inl ?_, fun key hkey => ?_⟩, ?_⟩
  · rw [hafter, if_neg hplace.symm, hbase]
  · rw [hafter]
    split_ifs
    · cases entry <;> simp
    · exact hd.files key hkey
  · funext p
    rw [Function.update_apply]
    split_ifs with hp
    · rw [bytesAt, hafter, if_pos hp]
      cases entry <;> rfl
    · exact bytesAt_of_node? (by rw [hafter, if_neg hp])

/-- **The disk is a map** from paths to bytes, on the files of a directory whose name and keys are not too long. -/
theorem system_isMap (hname : Names name) : system.IsMap ⟨name⟩ (Short name) (Keeps name) bytesAt where
  read := by
    rintro _ d ⟨key, hkey, hshort, rfl⟩ hd
    have hsteps := hname.steps_file hkey
    change d.read _ = _
    rw [hsteps, Disk.read]
    obtain ⟨hplace, -⟩ | ⟨hplace, hnone⟩ := hd.locate hname hkey hshort
    · simp only [hplace, hd.node?_file hkey]
      cases d.bytesAt [name, key ++ ".json"] <;> rfl
    · simp only [hplace, hnone, Option.elim_none]
  make := by
    intro d hd
    obtain ⟨made, hmade, hkeeps, -, hbytes⟩ := hd.make hname
    exact ⟨made, hmade, hkeeps, hbytes⟩
  write := by
    rintro _ d ⟨key, hkey, hshort, rfl⟩ hd bytes
    have hsteps := hname.steps_file hkey
    have hstanding := (names_file hkey hshort).not_standing [name] (List.cons_ne_nil _ _)
    obtain ⟨made, hmade, hkeeps, hbase, hbytes⟩ := hd.make hname
    have hplace : made.locate (Route.file ⟨name⟩ key) = .ok [name, key ++ ".json"] := by
      rw [locate_file hname hkey hshort]
      exact (names_file hkey hshort).follow hbase
    have hwrite : made.write (Route.file ⟨name⟩ key) bytes =
        .ok ⟨Assoc.assign [name, key ++ ".json"] (.file bytes) made.nodes⟩ := by
      simp only [Disk.write, hplace, hkeeps.node?_file hkey]
      cases made.bytesAt [name, key ++ ".json"] <;> rfl
    obtain ⟨hafter, hput⟩ := hkeeps.change (some bytes) hbase (by simp)
      (node?_assign hstanding made (.file bytes))
    refine ⟨_, ?_, hafter, ?_⟩
    · change (d.makeDirectories _).2.settled ((d.makeDirectories _).2.write _ _) = _
      rw [hmade, hwrite]
      rfl
    · rw [hsteps, ← hbytes]
      exact hput
  delete := by
    rintro _ d ⟨key, hkey, hshort, rfl⟩ hd
    have hsteps := hname.steps_file hkey
    have hstanding := (names_file hkey hshort).not_standing [name] (List.cons_ne_nil _ _)
    rw [hsteps]
    change ∃ after, d.settled (d.delete _) = _ ∧ _
    -- a file that is not there stays away
    have hgone : d.bytesAt [name, key ++ ".json"] = none → d.delete (Route.file ⟨name⟩ key) = .error .missing →
        ∃ after, d.settled (d.delete (Route.file ⟨name⟩ key)) =
          ((d.bytesAt [name, key ++ ".json"]).elim (.error .missing) fun _ => .ok (), after) ∧ Keeps name after ∧
          after.bytesAt = Function.update d.bytesAt [name, key ++ ".json"] none := by
      intro hnone hdelete
      refine ⟨d, ?_, hd, (Function.update_eq_self_iff.2 hnone.symm).symm⟩
      rw [hdelete, hnone]
      rfl
    obtain ⟨hplace, hbase⟩ | ⟨hplace, hnone⟩ := hd.locate hname hkey hshort
    · obtain hbytes | ⟨bytes, hbytes⟩ := Option.eq_none_or_eq_some (d.bytesAt [name, key ++ ".json"])
      · refine hgone hbytes ?_
        simp only [Disk.delete, hplace, hd.node?_file hkey, hbytes, Option.map_none]
      · have hdelete : d.delete (Route.file ⟨name⟩ key) = .ok ⟨Assoc.discard [name, key ++ ".json"] d.nodes⟩ := by
          simp only [Disk.delete, hplace, hd.node?_file hkey, hbytes, Option.map_some]
        obtain ⟨hafter, hput⟩ := hd.change none hbase (by simp) (node?_discard hstanding d)
        refine ⟨_, ?_, hafter, hput⟩
        rw [hdelete, hbytes]
        rfl
    · refine hgone hnone ?_
      simp only [Disk.delete, hplace]

end Disk

end VisualNovel
