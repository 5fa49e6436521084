/-
File systems, and a directory of one as a medium.

A `Route` is a path as it is written: `Route.steps` are its names between slashes, a slash in front counting as the
first, and empty names counting for nothing. `FileSystem σ` is any file system with contents of type `σ`: what it does
with a route is its own affair, it only tells a file that is not there from everything else that can go wrong.

`Medium.folder` keeps the bytes of each key in a file of its own, `key.json` in a base directory. It takes only keys of
ASCII letters, digits, underscores and hyphens, so every file lies directly in that directory.
-/
import VisualNovel.Store.Basic

namespace VisualNovel

/-- a path as it is written -/
structure Route where
  text : String
  deriving DecidableEq, Repr

namespace Route

/-- the names along a route -/
def steps (r : Route) : List String :=
  (if r.text.startsWith "/" then ["/"] else []) ++ ((r.text.toList.splitOn '/').map String.ofList).filter (· ≠ "")

/-- one more name at the end of a route -/
def join (r : Route) (name : String) : Route :=
  if r.text = "" ∨ r.text.endsWith "/" then ⟨r.text ++ name⟩ else ⟨r.text ++ "/" ++ name⟩

end Route

/-- why a file operation failed -/
inductive FileError where
  /-- something on the way, or the file itself, is not there -/
  | missing
  /-- something is there already -/
  | occupied
  /-- something on the way is a file -/
  | notDirectory
  /-- the route ends at a directory -/
  | isDirectory
  /-- the route or a name on it is too long -/
  | nameTooLong
  deriving DecidableEq, Repr

/-- the wording of a file error -/
def FileError.message : FileError → String
  | .missing => "No such file or directory (os error 2)"
  | .occupied => "File exists (os error 17)"
  | .notDirectory => "Not a directory (os error 20)"
  | .isDirectory => "Is a directory (os error 21)"
  | .nameTooLong => "File name too long (os error 36)"

/-- a file system whose contents are a `σ`: operations that change it give the contents after them, failed or not -/
structure FileSystem (σ : Type) where
  /-- the bytes of a file -/
  read : Route → σ → Except FileError ByteArray
  /-- make a directory and all that lead to it; those that are there stay -/
  makeDirectories : Route → σ → Except FileError Unit × σ
  /-- put bytes in a file, in place of any before -/
  write : Route → ByteArray → σ → Except FileError Unit × σ
  /-- delete a file -/
  delete : Route → σ → Except FileError Unit × σ

/-- keys that name files -/
def isFileKey (key : String) : Bool :=
  !key.isEmpty && key.toList.all fun c => c.isAlphanum || c == '_' || c == '-'

/-- the file of a key in a directory -/
def Route.file (base : Route) (key : String) : Route := base.join (key ++ ".json")

/-- a failed attempt as a store error -/
def fileFailure (attempt : String) (e : FileError) : StoreError := .io (attempt ++ ": " ++ e.message)

/-- a directory of a file system as a medium, one file per key; a file that is not there counts as no bytes -/
def Medium.folder {σ : Type} (fs : FileSystem σ) (base : Route) : Medium σ where
  get key s :=
    if isFileKey key then
      match fs.read (base.file key) s with
      | .ok bytes => (.ok (some bytes), s)
      | .error .missing => (.ok none, s)
      | .error e => (.error (fileFailure ("Failed to read " ++ (base.file key).text) e), s)
    else (.error (.invalidKey key), s)
  set key bytes s :=
    if isFileKey key then
      match fs.makeDirectories base s with
      | (.error e, s) => (.error (fileFailure "Failed to create save directory" e), s)
      | (.ok (), s) =>
        match fs.write (base.file key) bytes s with
        | (.ok (), s) => (.ok (), s)
        | (.error e, s) => (.error (fileFailure ("Failed to write " ++ (base.file key).text) e), s)
    else (.error (.invalidKey key), s)
  remove key s :=
    if isFileKey key then
      match fs.delete (base.file key) s with
      | (.ok (), s) => (.ok (), s)
      | (.error .missing, s) => (.ok (), s)
      | (.error e, s) => (.error (fileFailure ("Failed to delete " ++ (base.file key).text) e), s)
    else (.error (.invalidKey key), s)

end VisualNovel
