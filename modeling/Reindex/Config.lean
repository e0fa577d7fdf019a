import Reindex.Error
import Reindex.Settings
import Reindex.Text.Blank
import Reindex.Text.Uppercase
import Reindex.Text.Lowercase

namespace Reindex

/-- What becomes of an index definition whose entity type or index name is taken. -/
inductive DuplicatePolicy where
  | warn
  | reject
  deriving DecidableEq, Repr

namespace DuplicatePolicy

instance : Inhabited DuplicatePolicy := ⟨warn⟩

def name : DuplicatePolicy → String
  | warn => "warn"
  | reject => "reject"

def ofName? : String → Option DuplicatePolicy
  | "warn" => some warn
  | "reject" => some reject
  | _ => none

theorem ofName?_name (policy : DuplicatePolicy) : ofName? policy.name = some policy := by
  cases policy <;> rfl

end DuplicatePolicy

structure Config where
  indexStem : String
  pathLimit : UInt64
  duplicates : DuplicatePolicy
  settings : Settings
  deriving DecidableEq

namespace Config

def standard : Config := ⟨"search_index_", 16, .warn, Settings.empty⟩

instance : Inhabited Config := ⟨standard⟩

def pathCeiling : UInt64 := 64

def isPlainStem (stem : String) : Bool :=
  stem.toList.all (fun c => !Text.isUppercase c && !Text.isBlank c)

def fault? (config : Config) : Option ConfigError :=
  if config.pathLimit = 0 ∨ pathCeiling < config.pathLimit then
    some (.outOfRange "max_path_depth" (toString config.pathLimit) "1" (toString pathCeiling)
      "Mapping paths need at least one hop")
  else if !isPlainStem config.indexStem then
    some (.invalidValue "index_name_prefix" "index names must be lowercase without whitespace")
  else none

/-- The index name of an entity type whose definition gives none. -/
def indexNameOf (config : Config) (entity : EntityName) : String :=
  config.indexStem ++ Text.lowercase entity

end Config

end Reindex
