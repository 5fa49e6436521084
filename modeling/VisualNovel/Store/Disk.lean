/-
A disk: files and directories by place. A place is a route followed to its end: `Disk.follow` walks the names of a route
one by one, a dot staying, two dots going back, and every name but the last has to lead to a directory that is there. So
a route through a file or through nothing is refused even when it turns back at once. Names and routes have a greatest
length.

`Disk.makeDirectories` makes a directory, and where something on the way is missing, first what leads to it: the route
without its last name, dots left out. `Disk.system` is the disk as a file system.
-/
import VisualNovel.Assoc
import VisualNovel.Store.FileSystem

namespace VisualNovel

/-- the names that lead to a file or directory from the working directory: it may start with two dots, any number of
times, or with the root -/
abbrev Place := List String

namespace Place

/-- where one more name of a route leads -/
def enter (p : Place) (step : String) : Place :=
  if step = "." then p
  else if step = ".." then
    match p.getLast? with
    | none => [".."]
    | some ".." => p ++ [".."]
    | some "/" => p
    | some _ => p.dropLast
  else p ++ [step]

/-- the working directory, the directories around it and the root: they are always there -/
def isStanding (p : Place) : Bool := p == ["/"] || p.all (· == "..")

/-- a text that spells a place -/
def toText : Place → String
  | [] => "."
  | "/" :: names => "/" ++ "/".intercalate names
  | names => "/".intercalate names

end Place

/-- what lies at a place -/
inductive Node where
  | file (bytes : ByteArray)
  | directory

/-- files are compared byte by byte -/
instance : DecidableEq Node
  | .file a, .file b =>
    match ByteArray.instDecidableEq a b with
    | isTrue h => isTrue (congrArg Node.file h)
    | isFalse h => isFalse fun hfile => h (Node.file.inj hfile)
  | .directory, .directory => isTrue rfl
  | .file _, .directory => isFalse nofun
  | .directory, .file _ => isFalse nofun

/-- files and directories by place -/
structure Disk where
  nodes : List (Place × Node)
  deriving DecidableEq

namespace Disk

/-- nothing but the directories that are always there -/
def empty : Disk := ⟨[]⟩

/-- what lies at a place -/
def node? (d : Disk) (p : Place) : Option Node := if p.isStanding then some .directory else d.nodes.lookup p

/-- greatest length of a name in bytes -/
def nameMax : Nat := 255

/-- greatest length of a route in bytes -/
def routeMax : Nat := 4095

/-- the place where names lead from a place; it may be vacant -/
def follow (d : Disk) (start : Place) : List String → Except FileError Place
  | [] => .ok start
  | step :: steps =>
    match d.node? start with
    | none => .error .missing
    | some (.file _) => .error .notDirectory
    | some .directory =>
      if nameMax < step.utf8ByteSize then .error .nameTooLong else d.follow (start.enter step) steps

/-- the place where a route leads -/
def locate (d : Disk) (r : Route) : Except FileError Place :=
  if routeMax < r.text.utf8ByteSize then .error .nameTooLong else d.follow [] r.steps

/-- the bytes of the file at the end of a route -/
def read (d : Disk) (r : Route) : Except FileError ByteArray :=
  match d.locate r with
  | .error e => .error e
  | .ok p =>
    match d.node? p with
    | none => .error .missing
    | some .directory => .error .isDirectory
    | some (.file bytes) => .ok bytes

/-- put bytes in the file at the end of a route -/
def write (d : Disk) (r : Route) (bytes : ByteArray) : Except FileError Disk :=
  match d.locate r with
  | .error e => .error e
  | .ok p =>
    match d.node? p with
    | some .directory => .error .isDirectory
    | some (.file _) | none => .ok ⟨Assoc.assign p (.file bytes) d.nodes⟩

/-- delete the file at the end of a route -/
def delete (d : Disk) (r : Route) : Except FileError Disk :=
  match d.locate r with
  | .error e => .error e
  | .ok p =>
    match d.node? p with
    | none => .error .missing
    | some .directory => .error .isDirectory
    | some (.file _) => .ok ⟨Assoc.discard p d.nodes⟩

/-! ## Directories -/

/-- whether names lead to a directory -/
def isDirectory (d : Disk) (steps : List String) : Bool :=
  match d.follow [] steps with
  | .ok p => d.node? p = some .directory
  | .error _ => false

/-- make the directory to which names lead, where nothing is yet -/
def addDirectory (d : Disk) (steps : List String) : Except FileError Disk :=
  match d.follow [] steps with
  | .error e => .error e
  | .ok p =>
    match d.node? p with
    | some _ => .error .occupied
    | none => .ok ⟨Assoc.assign p .directory d.nodes⟩

/-- make the directory to which names lead, unless it is there -/
def ensureDirectory (d : Disk) (steps : List String) : Except FileError Unit × Disk :=
  match d.addDirectory steps with
  | .ok made => (.ok (), made)
  | .error e => if d.isDirectory steps then (.ok (), d) else (.error e, d)

/-- the names that lead to what holds the end of a route: dots are left out, except for one in front -/
def holder : List String → List String
  | "." :: steps => ("." :: steps.filter (· ≠ ".")).dropLast
  | steps => (steps.filter (· ≠ ".")).dropLast

theorem length_holder_lt {steps : List String} (h : steps ≠ []) : (holder steps).length < steps.length := by
  have hpos := List.length_pos_iff.2 h
  unfold holder
  split
  · rename_i rest
    have := List.length_filter_le (fun x : String => decide (x ≠ ".")) rest
    simp only [List.length_dropLast, List.length_cons]
    omega
  · have := List.length_filter_le (fun x : String => decide (x ≠ ".")) steps
    simp only [List.length_dropLast]
    omega

/-- make the directory to which names lead and those on the way; the disk is given back even if that fails halfway -/
def makeAll (d : Disk) (steps : List String) : Except FileError Unit × Disk :=
  if _h : steps = [] then (.ok (), d)
  else
    match d.addDirectory steps with
    | .error .missing =>
      match d.makeAll (holder steps) with
      | (.ok (), made) => made.ensureDirectory steps
      | failed => failed
    | _ => d.ensureDirectory steps
termination_by steps.length
decreasing_by exact length_holder_lt ‹_›

/-- make the directory at the end of a route and those on the way -/
def makeDirectories (d : Disk) (r : Route) : Except FileError Unit × Disk :=
  if routeMax < r.text.utf8ByteSize then (.error .nameTooLong, d) else d.makeAll r.steps

/-- the answer of a change, and the disk after it -/
def settled (d : Disk) : Except FileError Disk → Except FileError Unit × Disk
  | .ok changed => (.ok (), changed)
  | .error e => (.error e, d)

/-- the disk as a file system -/
def system : FileSystem Disk where
  read r d := d.read r
  makeDirectories r d := d.makeDirectories r
  write r bytes d := d.settled (d.write r bytes)
  delete r d := d.settled (d.delete r)

/-! ## A disk as a whole -/

/-- names of the files directly in a directory, in alphabetical order -/
def fileNames (d : Disk) (directory : Place) : List String :=
  let names := d.nodes.filterMap fun
    | (p, .file _) =>
      match p.getLast? with
      | some name => if p.dropLast = directory then some name else none
      | none => none
    | (_, .directory) => none
  names.mergeSort fun a b => decide (a ≤ b)

/-- put a file at the end of a route and make the directories on the way; nothing is put where that is not possible -/
def plant (d : Disk) (r : Route) (bytes : ByteArray) : Disk :=
  let made := (d.makeAll r.steps.dropLast).2
  match made.write r bytes with
  | .ok planted => planted
  | .error _ => made

/-- the files that `after` holds and `before` does not, or with other bytes -/
def newFiles (before after : Disk) : List (Place × ByteArray) :=
  after.nodes.filterMap fun
    | (p, .file bytes) => if before.node? p = some (.file bytes) then none else some (p, bytes)
    | (_, .directory) => none

end Disk

end VisualNovel
