/-
The memory as a medium: a finite map from keys to bytes. No operation fails and every key is taken.
-/
import VisualNovel.Assoc
import VisualNovel.Store.Basic

namespace VisualNovel

/-- bytes by key -/
abbrev Memory := List (String × ByteArray)

/-- the memory as a medium -/
def Medium.memory : Medium Memory where
  get key m := (.ok (m.lookup key), m)
  set key bytes m := (.ok (), Assoc.assign key bytes m)
  remove key m := (.ok (), Assoc.discard key m)

end VisualNovel
