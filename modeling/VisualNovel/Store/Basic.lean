/-
Key-value media. A medium keeps bytes under keys; reading, writing and removing may each fail, and may change the
medium even then. `Medium σ` is any such thing with contents of type `σ`, so save slots and the player are written once
for the memory, a directory on a disk and a medium that always fails, and hold for media that behave in any way at all.
-/
namespace VisualNovel

/-- why a medium did not do what it was asked -/
inductive StoreError where
  /-- reading or writing went wrong; what was tried -/
  | io (attempt : String)
  /-- the medium takes no such key -/
  | invalidKey (key : String)
  /-- the medium cannot be reached -/
  | unavailable (reason : String)
  deriving DecidableEq, Repr

/-- the wording of a store error -/
def StoreError.message : StoreError → String
  | .io attempt => "IO error: " ++ attempt
  | .invalidKey key => "Invalid storage key: " ++ key
  | .unavailable reason => "Repository unavailable: " ++ reason

/-- a key-value medium whose contents are a `σ`: each operation answers and gives the contents after it -/
structure Medium (σ : Type) where
  /-- the bytes under a key, none if there are none -/
  get : String → σ → Except StoreError (Option ByteArray) × σ
  /-- put bytes under a key, in place of any before -/
  set : String → ByteArray → σ → Except StoreError Unit × σ
  /-- leave nothing under a key; that nothing was there is no error -/
  remove : String → σ → Except StoreError Unit × σ

/-- the medium, but nothing can be written to it -/
def Medium.readOnly {σ : Type} (m : Medium σ) : Medium σ :=
  { m with set := fun key _ s => (.error (.io ("Failed to write " ++ key)), s) }

/-- a medium that fails whatever it is asked, for the same reason -/
def Medium.broken (reason : String) : Medium Unit where
  get _ s := (.error (.unavailable reason), s)
  set _ _ s := (.error (.unavailable reason), s)
  remove _ s := (.error (.unavailable reason), s)

end VisualNovel
