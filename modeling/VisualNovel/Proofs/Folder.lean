/-
A directory stands for the memory.

`Medium.folder` keeps bytes in files, `Medium.memory` in a map. Where the file system is a map from paths to bytes, the
two cannot be told apart by calls with keys that name files, whatever calls with other keys come between them.

- `MediumCall.leaves`: what a call leaves under a key. The memory holds what the last call that wrote to a key left there
  (`Medium.memory_answerAll`).
- `Mirrors`: the files of the keys are those of a memory. One call is answered alike on both sides, keeps this and touches
  no other path (`Mirrors.perform`); so does a run of calls (`Mirrors.answerAll`).
- `MediumCall.operations`: the operations of the file system that a call comes to, none if its key names no file. On a file
  system that differs in all others nothing comes out differently (`Medium.folder_same`), so there are no others.
-/
import VisualNovel.Proofs.Files
import VisualNovel.Store.Memory

namespace VisualNovel

/-! ## Calls -/

/-- what a medium can be asked -/
inductive MediumCall where
  | get (key : String)
  | set (key : String) (bytes : ByteArray)
  | remove (key : String)

/-- what a medium answers when it does what it is asked -/
inductive MediumAnswer where
  | found (bytes : Option ByteArray)
  | done

namespace MediumCall

/-- the key that a call names -/
def key : MediumCall → String
  | .get key | .set key _ | .remove key => key

/-- what a call puts under a key or leaves there, if it writes to it -/
def leaves (key : String) : MediumCall → Option (Option ByteArray)
  | .get _ => none
  | .set k bytes => if k = key then some (some bytes) else none
  | .remove k => if k = key then some none else none

/-- the answer to a call, unless its key names no file -/
def screened (call : MediumCall) (answer : Except StoreError MediumAnswer) : Except StoreError MediumAnswer :=
  if isFileKey call.key then answer else .error (.invalidKey call.key)

end MediumCall

namespace Medium

variable {σ : Type}

/-- one call: the answer and the contents after it -/
def perform (m : Medium σ) (s : σ) : MediumCall → Except StoreError MediumAnswer × σ
  | .get key => ((m.get key s).1.map .found, (m.get key s).2)
  | .set key bytes => ((m.set key bytes s).1.map fun _ => .done, (m.set key bytes s).2)
  | .remove key => ((m.remove key s).1.map fun _ => .done, (m.remove key s).2)

/-- the answers to calls made one after the other, and the contents after them -/
def answerAll (m : Medium σ) (s : σ) : List MediumCall → List (Except StoreError MediumAnswer) × σ
  | [] => ([], s)
  | call :: calls =>
    let rest := m.answerAll (m.perform s call).2 calls
    ((m.perform s call).1 :: rest.1, rest.2)

theorem memory_perform (m : Memory) (call : MediumCall) (key : String) :
    (Medium.memory.perform m call).2.lookup key = (call.leaves key).getD (m.lookup key) := by
  cases call with
  | get k => rfl
  | set k bytes =>
    change (Assoc.assign k bytes m).lookup key = _
    rw [Assoc.lookup_assign, MediumCall.leaves]
    by_cases h : k = key
    · rw [if_pos h, if_pos h.symm, Option.getD_some]
    · rw [if_neg h, if_neg (Ne.symm h), Option.getD_none]
  | remove k =>
    change (Assoc.discard k m).lookup key = _
    rw [Assoc.lookup_discard, MediumCall.leaves]
    by_cases h : k = key
    · rw [if_pos h, if_pos h.symm, Option.getD_some]
    · rw [if_neg h, if_neg (Ne.symm h), Option.getD_none]

/-- the memory holds what the last call that wrote to a key left there -/
theorem memory_answerAll (m : Memory) (calls : List MediumCall) (key : String) :
    (Medium.memory.answerAll m calls).2.lookup key =
      (calls.reverse.findSome? (MediumCall.leaves key)).getD (m.lookup key) := by
  induction calls generalizing m with
  | nil => rfl
  | cons call calls ih =>
    rw [answerAll, ih, memory_perform, List.reverse_cons, List.findSome?_append]
    cases calls.reverse.findSome? (MediumCall.leaves key) with
    | some entry => rfl
    | none => cases h : call.leaves key <;> simp [h]

end Medium

/-! ## What a call comes to -/

/-- an operation of a file system -/
inductive FileOperation where
  | read (r : Route)
  | makeDirectories (r : Route)
  | write (r : Route)
  | delete (r : Route)

/-- two file systems do the same when asked for the operation -/
def FileOperation.Same {σ : Type} (fs other : FileSystem σ) : FileOperation → Prop
  | .read r => fs.read r = other.read r
  | .makeDirectories r => fs.makeDirectories r = other.makeDirectories r
  | .write r => fs.write r = other.write r
  | .delete r => fs.delete r = other.delete r

/-- the operations that a call on a directory may ask for: none if its key names no file -/
def MediumCall.operations (base : Route) (call : MediumCall) : List FileOperation :=
  if isFileKey call.key then
    match call with
    | .get key => [.read (base.file key)]
    | .set key _ => [.makeDirectories base, .write (base.file key)]
    | .remove key => [.delete (base.file key)]
  else []

namespace Medium

variable {σ : Type} {fs other : FileSystem σ} {base : Route}

/-- a key that names no file is refused, and the file system is not asked -/
theorem folder_refuses (fs : FileSystem σ) (base : Route) {call : MediumCall} (hkey : ¬ isFileKey call.key) (s : σ) :
    (folder fs base).perform s call = (.error (.invalidKey call.key), s) := by
  cases call with
  | get key => simp only [perform, folder, if_neg (show ¬ isFileKey key from hkey)]; rfl
  | set key bytes => simp only [perform, folder, if_neg (show ¬ isFileKey key from hkey)]; rfl
  | remove key => simp only [perform, folder, if_neg (show ¬ isFileKey key from hkey)]; rfl

theorem folder_same_step {call : MediumCall} (hsame : ∀ op ∈ call.operations base, op.Same fs other) (s : σ) :
    (folder other base).perform s call = (folder fs base).perform s call := by
  by_cases hkey : isFileKey call.key
  · simp only [MediumCall.operations, hkey, if_true] at hsame
    cases call with
    | get key =>
      have hread : fs.read (base.file key) = other.read (base.file key) := hsame (.read _) (by simp)
      simp only [perform, folder, hread]
    | set key bytes =>
      have hmake : fs.makeDirectories base = other.makeDirectories base := hsame (.makeDirectories _) (by simp)
      have hwrite : fs.write (base.file key) = other.write (base.file key) := hsame (.write _) (by simp)
      simp only [perform, folder, hmake, hwrite]
    | remove key =>
      have hdelete : fs.delete (base.file key) = other.delete (base.file key) := hsame (.delete _) (by simp)
      simp only [perform, folder, hdelete]
  · rw [folder_refuses other base hkey, folder_refuses fs base hkey]

/-- **Nothing else is asked for.** Calls come out the same on any file system that does the same for their operations. -/
theorem folder_same {calls : List MediumCall} (hsame : ∀ call ∈ calls, ∀ op ∈ call.operations base, op.Same fs other)
    (s : σ) : (folder other base).answerAll s calls = (folder fs base).answerAll s calls := by
  induction calls generalizing s with
  | nil => rfl
  | cons call calls ih =>
    obtain ⟨hcall, hcalls⟩ := List.forall_mem_cons.1 hsame
    rw [answerAll, answerAll, folder_same_step hcall, ih hcalls]

end Medium

/-! ## A directory that mirrors a memory -/

section

variable {σ : Type} {fs : FileSystem σ} {base : Route} {routes : Route → Prop} {sound : σ → Prop}
  {files : σ → List String → Option ByteArray} {s : σ} {m : Memory}

/-- under every key that names a file, the directory holds what the memory holds -/
structure Mirrors (base : Route) (sound : σ → Prop) (files : σ → List String → Option ByteArray) (s : σ)
    (m : Memory) : Prop where
  sound : sound s
  bytes : ∀ key, isFileKey key → files s (base.file key).steps = m.lookup key

/-- what a call, or a run of them, comes to in a directory and in a memory -/
structure Follows {α : Type} (base : Route) (sound : σ → Prop) (files : σ → List String → Option ByteArray) (s : σ)
    (kept : α × σ) (answer : α) (m : Memory) : Prop where
  answer : kept.1 = answer
  mirrors : Mirrors base sound files kept.2 m
  others : ∀ path, (∀ key, isFileKey key → path ≠ (base.file key).steps) → files kept.2 path = files s path

/-- the file of one key is written anew, or is gone, and the memory is changed likewise -/
theorem Mirrors.follows (hmirrors : Mirrors base sound files s m) {key : String} (hkey : isFileKey key)
    {entry : Option ByteArray} {after : σ} {remembered : Memory} (hsound : sound after)
    (hafter : files after = Function.update (files s) (base.file key).steps entry)
    (hremembered : ∀ k, remembered.lookup k = if k = key then entry else m.lookup k) {α : Type} (answer : α) :
    Follows base sound files s (answer, after) answer remembered := by
  refine ⟨rfl, ⟨hsound, fun k hk => ?_⟩, fun path hpath => ?_⟩
  · rw [hafter, hremembered, Function.update_apply]
    by_cases h : k = key
    · rw [if_pos (h ▸ rfl), if_pos h]
    · have hpath : (base.file k).steps ≠ (base.file key).steps := fun hsteps => h (base.file_injective hk hkey hsteps)
      rw [if_neg hpath, if_neg h, hmirrors.bytes k hk]
  · rw [hafter, Function.update_of_ne (hpath key hkey)]

variable {key : String}

theorem Mirrors.get (hmap : fs.IsMap base routes sound files) (hmirrors : Mirrors base sound files s m)
    (hkey : isFileKey key) (hroute : routes (base.file key)) :
    Follows base sound files s ((Medium.folder fs base).perform s (.get key)) (.ok (.found (m.lookup key))) m := by
  have hread := hmap.read hroute hmirrors.sound
  rw [hmirrors.bytes key hkey] at hread
  have hget : (Medium.folder fs base).perform s (.get key) = (.ok (.found (m.lookup key)), s) := by
    simp only [Medium.perform, Medium.folder, hkey, if_true, hread]
    cases m.lookup key <;> rfl
  rw [hget]
  exact ⟨rfl, hmirrors, fun _ _ => rfl⟩

theorem Mirrors.set (hmap : fs.IsMap base routes sound files) (hmirrors : Mirrors base sound files s m)
    (hkey : isFileKey key) (hroute : routes (base.file key)) (bytes : ByteArray) :
    Follows base sound files s ((Medium.folder fs base).perform s (.set key bytes)) (.ok .done)
      (Assoc.assign key bytes m) := by
  obtain ⟨made, hmade, -, -⟩ := hmap.make hmirrors.sound
  obtain ⟨after, hwrite, hsound, hafter⟩ := hmap.write hroute hmirrors.sound bytes
  rw [hmade] at hwrite
  have hset : (Medium.folder fs base).perform s (.set key bytes) = (.ok .done, after) := by
    simp only [Medium.perform, Medium.folder, hkey, if_true, hmade, hwrite]
    rfl
  rw [hset]
  exact hmirrors.follows hkey hsound hafter (fun k => Assoc.lookup_assign key k bytes m) _

theorem Mirrors.remove (hmap : fs.IsMap base routes sound files) (hmirrors : Mirrors base sound files s m)
    (hkey : isFileKey key) (hroute : routes (base.file key)) :
    Follows base sound files s ((Medium.folder fs base).perform s (.remove key)) (.ok .done)
      (Assoc.discard key m) := by
  obtain ⟨after, hdelete, hsound, hafter⟩ := hmap.delete hroute hmirrors.sound
  have hremove : (Medium.folder fs base).perform s (.remove key) = (.ok .done, after) := by
    simp only [Medium.perform, Medium.folder, hkey, if_true, hdelete]
    -- a file that is not there is no error
    cases files s (base.file key).steps <;> rfl
  rw [hremove]
  exact hmirrors.follows hkey hsound hafter (fun k => Assoc.lookup_discard key k m) _

theorem Mirrors.perform (hmap : fs.IsMap base routes sound files) (hmirrors : Mirrors base sound files s m)
    {call : MediumCall} (hroute : isFileKey call.key → routes (base.file call.key)) :
    Follows base sound files s ((Medium.folder fs base).perform s call)
      (call.screened (Medium.memory.perform m call).1) (Medium.memory.perform m call).2 := by
  by_cases hkey : isFileKey call.key
  · rw [MediumCall.screened, if_pos hkey]
    cases call with
    | get key => exact hmirrors.get hmap hkey (hroute hkey)
    | set key bytes => exact hmirrors.set hmap hkey (hroute hkey) bytes
    | remove key => exact hmirrors.remove hmap hkey (hroute hkey)
  · -- the memory takes the key, and nothing of that is seen under the keys of files
    rw [MediumCall.screened, if_neg hkey, Medium.folder_refuses fs base hkey]
    refine ⟨rfl, ⟨hmirrors.sound, fun k hk => ?_⟩, fun _ _ => rfl⟩
    have hleaves : call.leaves k = none := by
      cases call with
      | get key => rfl
      | set key bytes => exact if_neg fun h : key = k => hkey (h ▸ hk)
      | remove key => exact if_neg fun h : key = k => hkey (h ▸ hk)
    rw [Medium.memory_perform, hleaves, Option.getD_none, hmirrors.bytes k hk]

theorem Mirrors.answerAll (hmap : fs.IsMap base routes sound files) (hmirrors : Mirrors base sound files s m)
    {calls : List MediumCall} (hroutes : ∀ call ∈ calls, isFileKey call.key → routes (base.file call.key)) :
    Follows base sound files s ((Medium.folder fs base).answerAll s calls)
      (List.zipWith MediumCall.screened calls (Medium.memory.answerAll m calls).1) (Medium.memory.answerAll m calls).2 := by
  induction calls generalizing s m with
  | nil => exact ⟨rfl, hmirrors, fun _ _ => rfl⟩
  | cons call calls ih =>
    obtain ⟨hcall, hcalls⟩ := List.forall_mem_cons.1 hroutes
    have hfirst := hmirrors.perform hmap hcall
    have hrest := ih hfirst.mirrors hcalls
    refine ⟨?_, hrest.mirrors, fun path hpath => (hrest.others path hpath).trans (hfirst.others path hpath)⟩
    simp only [Medium.answerAll, hfirst.answer, hrest.answer, List.zipWith_cons_cons]

end

/-- **A directory stands for the memory.** On a file system that is a map from paths to bytes, with no file under any key
yet, calls are answered as by the memory when their keys name files, and refused when not. Under each key lies then what
the last call that wrote to it left there, and nothing else has changed. No other file is read, written or deleted: files
lie directly in the directory, one for each key. -/
theorem folder_stands_for_memory {σ : Type} {fs : FileSystem σ} {base : Route} {routes : Route → Prop}
    {sound : σ → Prop} {files : σ → List String → Option ByteArray} (hmap : fs.IsMap base routes sound files) {s : σ}
    (hsound : sound s) (hempty : ∀ key, isFileKey key → files s (base.file key).steps = none) (calls : List MediumCall)
    (hroutes : ∀ call ∈ calls, isFileKey call.key → routes (base.file call.key)) :
    ((Medium.folder fs base).answerAll s calls).1 =
      List.zipWith MediumCall.screened calls (Medium.memory.answerAll [] calls).1 ∧
    (∀ call, ¬ isFileKey call.key → ∀ t, (Medium.folder fs base).perform t call = (.error (.invalidKey call.key), t)) ∧
    (∀ other : FileSystem σ, (∀ call ∈ calls, ∀ op ∈ call.operations base, op.Same fs other) →
      (Medium.folder other base).answerAll s calls = (Medium.folder fs base).answerAll s calls) ∧
    (∀ key, isFileKey key → files ((Medium.folder fs base).answerAll s calls).2 (base.file key).steps =
      (calls.reverse.findSome? (MediumCall.leaves key)).join) ∧
    (∀ path, (∀ key, isFileKey key → path ≠ (base.file key).steps) →
      files ((Medium.folder fs base).answerAll s calls).2 path = files s path) ∧
    (∀ key, isFileKey key → (base.file key).steps = base.steps ++ [key ++ ".json"]) ∧
    (∀ key other, isFileKey key → isFileKey other → (base.file key).steps = (base.file other).steps → key = other) ∧
    ∀ key, isFileKey key ↔ key ≠ "" ∧ ∀ c ∈ key.toList,
      ('A' ≤ c ∧ c ≤ 'Z') ∨ ('a' ≤ c ∧ c ≤ 'z') ∨ ('0' ≤ c ∧ c ≤ '9') ∨ c = '_' ∨ c = '-' := by
  have hmirrors : Mirrors base sound files s [] := ⟨hsound, hempty⟩
  have hrun := hmirrors.answerAll hmap hroutes
  refine ⟨hrun.answer, fun _ hkey => Medium.folder_refuses fs base hkey, fun _ hsame => Medium.folder_same hsame s,
    fun key hkey => ?_, hrun.others, fun _ => base.steps_file, fun _ _ => base.file_injective, fun _ => isFileKey_iff⟩
  rw [hrun.mirrors.bytes key hkey, Medium.memory_answerAll]
  cases calls.reverse.findSome? (MediumCall.leaves key) <;> rfl

/-- a disk with a file in the working directory and nothing else -/
def notesDisk : Disk := ⟨[(["notes"], .file "quiet".toUTF8)]⟩

/-- one key is written and cleared twice, another is written twice, and between them come keys that name no files -/
def folderCalls : List MediumCall :=
  [.set "save_1" "one".toUTF8, .set "../notes" "loud".toUTF8, .get "save_1", .remove "save_1", .remove "save_1",
    .get "save_1", .remove "", .set "B-9" "two".toUTF8, .set "B-9" "three".toUTF8, .get "é"]

theorem notesDisk_keeps : notesDisk.Keeps "saves" := by
  have hnone : ∀ file, notesDisk.node? ["saves", file] = none := by
    intro file
    simp [notesDisk, Disk.node?, Place.isStanding, List.lookup_cons]
  refine ⟨.inr ⟨by decide, hnone⟩, fun key _ => ?_⟩
  rw [hnone]
  simp

/-- Two files are made and one is left; the keys that would lead elsewhere are refused. -/
theorem folder_on_disk :
    ((Medium.folder Disk.system ⟨"saves"⟩).answerAll notesDisk folderCalls).1 =
      [.ok .done, .error (.invalidKey "../notes"), .ok (.found (some "one".toUTF8)), .ok .done, .ok .done,
        .ok (.found none), .error (.invalidKey ""), .ok .done, .ok .done, .error (.invalidKey "é")] ∧
    ((Medium.folder Disk.system ⟨"saves"⟩).answerAll notesDisk folderCalls).2.bytesAt ["saves", "B-9.json"] =
      some "three".toUTF8 ∧
    ((Medium.folder Disk.system ⟨"saves"⟩).answerAll notesDisk folderCalls).2.bytesAt ["saves", "save_1.json"] = none ∧
    ((Medium.folder Disk.system ⟨"saves"⟩).answerAll notesDisk folderCalls).2.bytesAt ["notes"] =
      some "quiet".toUTF8 := by
  have hname : Disk.Names "saves" := ⟨⟨by decide, by decide⟩, by decide, by decide, by decide⟩
  have hempty : ∀ key, isFileKey key → notesDisk.bytesAt (Route.file ⟨"saves"⟩ key).steps = none := by
    intro key hkey
    obtain h | ⟨-, hnone⟩ := notesDisk_keeps.base
    · exact absurd h (by decide)
    · rw [hname.steps_file hkey, Disk.bytesAt, hnone]
  have hshort : ∀ call ∈ folderCalls, (call.key ++ ".json").utf8ByteSize ≤ Disk.nameMax := by decide
  obtain ⟨hanswers, -, -, hfiles, hothers, -⟩ := folder_stands_for_memory (Disk.system_isMap hname) notesDisk_keeps
    hempty folderCalls fun call hcall hkey => ⟨call.key, hkey, hshort call hcall, rfl⟩
  refine ⟨hanswers, ?_, ?_, ?_⟩
  · have hfile := hfiles "B-9" (by decide)
    rw [hname.steps_file (by decide)] at hfile
    exact hfile
  · have hfile := hfiles "save_1" (by decide)
    rw [hname.steps_file (by decide)] at hfile
    exact hfile
  · refine hothers ["notes"] fun key hkey => ?_
    rw [hname.steps_file hkey]
    simp

end VisualNovel
