import Reindex.Config.File
import Reindex.Mapping.File
import Reindex.Schema.File
import Reindex.Yaml.Document
import Reindex.Yaml.Writer

namespace Reindex

namespace Yaml

/-- A reader and a writer of texts. Files are loaded and saved with any two of them. -/
structure Format where
  read? : String → Option Node
  write : Json → String

def format : Format := ⟨Node.ofText?, text⟩

end Yaml

abbrev Contents := Except FileFault String

namespace Contents

def ofBytes (bytes : ByteArray) : Contents :=
  match String.fromUTF8? bytes with
  | some text => .ok text
  | none => .error .notText

end Contents

variable (format : Yaml.Format)

namespace Config

def ofText (text : String) : Except ConfigError Config :=
  match (format.read? text).bind ConfigFile.read? with
  | some file => ofFile file
  | none => .error .malformed

def load : Contents → Except ConfigError Config
  | .ok text => ofText format text
  | .error fault => .error (.file fault)

def text (config : Config) : String := format.write config.toFile.toJson

end Config

namespace Schema

def ofText (text : String) : Except TrackingError Schema :=
  match (format.read? text).bind SchemaFile.read? with
  | some file => ofFile file
  | none => .error .malformed

def load : Contents → Except TrackingError Schema
  | .ok text => ofText format text
  | .error fault => .error (.file fault)

end Schema

namespace DefinitionsFile

def ofText (text : String) : Except TrackingError (List Definition) :=
  match (format.read? text).bind DefinitionsFile.read? with
  | some file => file.definitions
  | none => .error .malformed

def load : Contents → Except TrackingError (List Definition)
  | .ok text => ofText format text
  | .error fault => .error (.file fault)

end DefinitionsFile

end Reindex
