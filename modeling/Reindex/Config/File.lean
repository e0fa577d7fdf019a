import Reindex.Wire.Settings

namespace Reindex

structure ConfigFile where
  version : Option UInt32
  indexStem : Option String
  pathLimit : Option UInt64
  duplicates : Option DuplicatePolicy
  settings : Option Settings
  deriving DecidableEq

namespace ConfigFile

variable {δ : Type} [Document δ]

def read? (document : δ) : Option ConfigFile := do
  let given ← Document.slots? true
    [.plain "version", .plain "index_name_prefix", .plain "max_path_depth",
      .plain "duplicate_definitions", .plain "settings"] document
  let version ← Document.optional Document.word32? "version" given
  let indexStem ← Document.optional Document.text? "index_name_prefix" given
  let pathLimit ← Document.optional Document.word64? "max_path_depth" given
  let duplicates ← Document.optional DuplicatePolicy.read? "duplicate_definitions" given
  let settings ← Document.optional Settings.read? "settings" given
  some ⟨version, indexStem, pathLimit, duplicates, settings⟩

def member (name : String) (encode : α → Json) (value : Option α) : List (String × Json) :=
  (value.map (fun value => (name, encode value))).toList

def toJson (file : ConfigFile) : Json :=
  .object (member "version" (fun v => .nat v.toNat) file.version ++
    member "index_name_prefix" .string file.indexStem ++
    member "max_path_depth" (fun n => .nat n.toNat) file.pathLimit ++
    member "duplicate_definitions" DuplicatePolicy.toJson file.duplicates ++
    member "settings" Settings.toJson file.settings)

end ConfigFile

namespace Config

/-- The standard configuration with the values of a file in place of its own. -/
def overlay (file : ConfigFile) : Config where
  indexStem := file.indexStem.getD standard.indexStem
  pathLimit := file.pathLimit.getD standard.pathLimit
  duplicates := file.duplicates.getD standard.duplicates
  settings := file.settings.getD standard.settings

def ofFile (file : ConfigFile) : Except ConfigError Config := do
  ConfigError.checkVersion file.version
  match (overlay file).fault? with
  | some fault => .error fault
  | none => .ok (overlay file)

def toFile (config : Config) : ConfigFile where
  version := some ConfigError.supportedVersion
  indexStem := some config.indexStem
  pathLimit := some config.pathLimit
  duplicates := some config.duplicates
  settings := some config.settings

end Config

end Reindex
