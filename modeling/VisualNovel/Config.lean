/-
Configuration: who speaks, how many save slots there are, where assets lie, how long one advance may run and what is
logged. Every section and every member has a standard value, so a document names only what it changes.
-/
import VisualNovel.Assoc
import VisualNovel.Voice

namespace VisualNovel

/-- save slots: how many, and what their storage keys start with -/
structure SlotConfig where
  maxSlots : Nat
  keyStem : String
  deriving DecidableEq, Repr

/-- twenty slots -/
def SlotConfig.standard : SlotConfig := ⟨20, "alive_save_"⟩

/-- instructions that one advance may execute when nothing else is said -/
def standardMaxSteps : Nat := 100000

/-- the whole configuration -/
structure Config where
  speakers : Speakers
  slots : SlotConfig
  /-- base directory of assets, as written -/
  assetDir : String
  maxSteps : Nat
  filter : LogFilter
  deriving DecidableEq, Repr

/-- the configuration that is used when none is given -/
def Config.standard : Config := ⟨.standard, .standard, Assets.standard.baseDir, standardMaxSteps, .standard⟩

/-- a map from texts to texts: an object, in which the last of several members of one name counts -/
def asTextMap : Json.Decoder (List (String × String))
  | .obj ms => do
    let ms ← Json.namedMembers ms
    ms.foldlM (fun acc (name, v) => return Assoc.assign name (← Json.asText v) acc) []
  | v => .error (.kind v.kindName "a map")

/-- the speaker section -/
def Speakers.ofJson : Json.Decoder Speakers := fun v => do
  let f ← Json.Fields.ofRecord ["allowed", "voice_keys", "silent"] "speakers" v
  let standard := Speakers.standard
  let allowed ← f.withDefault "allowed" (Json.asList Json.asText) standard.allowed
  let voiceKeys ← f.withDefault "voice_keys" asTextMap standard.voiceKeys
  let silent ← f.withDefault "silent" (Json.asList Json.asText) standard.silent
  return ⟨allowed, voiceKeys, silent⟩

/-- the save section -/
def SlotConfig.ofJson : Json.Decoder SlotConfig := fun v => do
  let f ← Json.Fields.ofRecord ["max_slots", "key_prefix"] "save slots" v
  let maxSlots ← f.withDefault "max_slots" Json.asSize SlotConfig.standard.maxSlots
  let keyStem ← f.withDefault "key_prefix" Json.asText SlotConfig.standard.keyStem
  return ⟨maxSlots, keyStem⟩

/-- the asset section: the base directory -/
def assetDirOfJson : Json.Decoder String := fun v => do
  let f ← Json.Fields.ofRecord ["base_dir"] "assets" v
  f.withDefault "base_dir" Json.asText Config.standard.assetDir

/-- the runtime section: instructions per advance -/
def maxStepsOfJson : Json.Decoder Nat := fun v => do
  let f ← Json.Fields.ofRecord ["max_steps_per_advance"] "limits" v
  f.withDefault "max_steps_per_advance" Json.asSize Config.standard.maxSteps

/-- the log section -/
def LogFilter.ofJson : Json.Decoder LogFilter := fun v => do
  let f ← Json.Fields.ofRecord ["enabled", "level", "categories"] "a log filter" v
  let standard := LogFilter.standard
  let enabled ← f.withDefault "enabled" Json.asBool standard.enabled
  let threshold ← f.withDefault "level" (Json.asChoice false Level.choices) standard.threshold
  let categories ← f.withDefault "categories" (Json.asList (Json.asChoice false Category.choices)) standard.categories
  return ⟨enabled, threshold, categories⟩

namespace Config

/-- a configuration -/
def ofJson : Json.Decoder Config := fun v => do
  let f ← Json.Fields.ofRecord ["speakers", "saves", "assets", "runtime", "debug"] "a configuration" v
  let speakers ← f.withDefault "speakers" Speakers.ofJson standard.speakers
  let slots ← f.withDefault "saves" SlotConfig.ofJson standard.slots
  let assetDir ← f.withDefault "assets" assetDirOfJson standard.assetDir
  let maxSteps ← f.withDefault "runtime" maxStepsOfJson standard.maxSteps
  let filter ← f.withDefault "debug" LogFilter.ofJson standard.filter
  return ⟨speakers, slots, assetDir, maxSteps, filter⟩

/-- where assets lie -/
def assets (c : Config) : Assets := .ofDir c.assetDir

/-- the document of a configuration, with every member; categories stand in alphabetical order -/
def toJson (c : Config) : Json :=
  let categories := [Category.engine, .flow, .save, .text, .voice].filter (· ∈ c.filter.categories)
  .object [
    ("speakers", .object [("allowed", .texts c.speakers.allowed),
      ("voice_keys", .object (c.speakers.voiceKeys.map fun (name, key) => (name, .text key))),
      ("silent", .texts c.speakers.silent)]),
    ("saves", .object [("max_slots", .nat c.slots.maxSlots), ("key_prefix", .text c.slots.keyStem)]),
    ("assets", .object [("base_dir", .text c.assetDir)]),
    ("runtime", .object [("max_steps_per_advance", .nat c.maxSteps)]),
    ("debug", .object [("enabled", .bool c.filter.enabled), ("level", .text c.filter.threshold.name),
      ("categories", .texts (categories.map Category.name))])]

end Config

end VisualNovel
