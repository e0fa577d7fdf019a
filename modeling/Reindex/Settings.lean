import Std.Data.ExtTreeMap
import Reindex.Entity
import Reindex.Json.Normal

namespace Reindex

abbrev SettingMap := Std.ExtTreeMap String Json.Normal

/-- Settings as a configuration gives them: for all indexes, and for those of some entities. -/
structure Settings where
  common : SettingMap
  entities : Std.ExtTreeMap String SettingMap
  deriving DecidableEq

namespace Settings

def empty : Settings := ⟨∅, ∅⟩

instance : Inhabited Settings := ⟨empty⟩

end Settings

/-- Common settings apply to every index; the explicit settings of an entity type override them key
by key, whatever the order in which they were given. -/
structure SettingsContext where
  common : SettingMap
  explicit : Std.ExtTreeMap EntityName SettingMap
  deriving DecidableEq

namespace SettingsContext

def empty : SettingsContext := ⟨∅, ∅⟩

instance : Inhabited SettingsContext := ⟨empty⟩

def ofConfig (settings : Settings) : SettingsContext where
  common := settings.common
  explicit := .ofList settings.entities.toList

variable (context : SettingsContext)

def setCommon (key : String) (value : Json.Normal) : SettingsContext :=
  { context with common := context.common.insert key value }

def explicit? (entity : EntityName) : Option SettingMap := context.explicit[entity]?

def setExplicit (entity : EntityName) (key : String) (value : Json.Normal) : SettingsContext :=
  let map := (context.explicit? entity).getD ∅
  { context with explicit := context.explicit.insert entity (map.insert key value) }

def effective (entity : EntityName) : SettingMap :=
  context.common.insertMany ((context.explicit? entity).getD ∅).toList

end SettingsContext

end Reindex
