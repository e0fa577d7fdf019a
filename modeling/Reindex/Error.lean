import Reindex.Schema

namespace Reindex

inductive FileFault where
  | notFound
  | isDirectory
  | notADirectory
  | denied
  | nameTooLong
  | notText
  deriving DecidableEq, Repr

def FileFault.message : FileFault → String
  | notFound => "No such file or directory (os error 2)"
  | isDirectory => "Is a directory (os error 21)"
  | notADirectory => "Not a directory (os error 20)"
  | denied => "Permission denied (os error 13)"
  | nameTooLong => "File name too long (os error 36)"
  | notText => "stream did not contain valid UTF-8"

inductive ConfigError where
  | outOfRange (field value least greatest hint : String)
  | invalidValue (field reason : String)
  | missingVersion
  | unsupportedVersion (found : UInt32) (supported : List UInt32)
  | file (fault : FileFault)
  | malformed
  deriving DecidableEq, Repr

namespace ConfigError

def message : ConfigError → String
  | outOfRange field value least greatest hint =>
    "Invalid range for field '" ++ field ++ "': " ++ value ++ " not in " ++ least ++ "..=" ++
      greatest ++ ". " ++ hint
  | invalidValue field reason => "Invalid value for field '" ++ field ++ "': " ++ reason
  | missingVersion =>
    "Missing 'version' field in configuration file. " ++
      "Add 'version: 1' to the top of your YAML file."
  | unsupportedVersion found supported =>
    "Unsupported configuration version " ++ toString found ++ ". Supported versions: " ++
      ", ".intercalate (supported.map toString)
  | file fault => "IO error: " ++ fault.message
  | malformed => "YAML parsing error: malformed document"

def source? : ConfigError → Option String
  | file fault => some fault.message
  | malformed => some "malformed document"
  | _ => none

def supportedVersion : UInt32 := 1

def checkVersion : Option UInt32 → Except ConfigError Unit
  | none => .error missingVersion
  | some version =>
    if version = supportedVersion then .ok ()
    else .error (unsupportedVersion version [supportedVersion])

end ConfigError

inductive TrackingError where
  | config (error : ConfigError)
  | unknownEntity (entity : EntityName)
  | unknownProperty (entity : EntityName) (property : String) (nearest : Option String)
  | notAReference (entity : EntityName) (property path : String)
  | emptyPath (entity : EntityName)
  | foreignRoot (entity : EntityName) (field : String) (root : EntityName)
  | duplicateField (entity : EntityName) (field : String)
  | mappingCycle (root : EntityName) (path : String) (entity : EntityName) (property : String)
  | pathTooDeep (root : EntityName) (path : String) (depth limit : Nat)
  | duplicateDefinition (entity : EntityName) (index : String)
  | invalidSchema (fault : SchemaFault)
  | file (fault : FileFault)
  | malformed
  deriving DecidableEq, Repr

namespace TrackingError

def suggestion : Option String → String
  | some name => "Did you mean '" ++ name ++ "'?"
  | none => "No properties declared on this entity"

def message : TrackingError → String
  | config error => "Configuration error: " ++ error.message
  | unknownEntity entity => "Unknown entity '" ++ entity ++ "'"
  | unknownProperty entity property nearest =>
    "Unknown property '" ++ property ++ "' on entity '" ++ entity ++ "'. " ++ suggestion nearest
  | notAReference entity property path =>
    "Property '" ++ entity ++ "." ++ property ++ "' is not a reference, path '" ++ path ++
      "' cannot continue past it"
  | emptyPath entity => "Empty property path in index definition for entity '" ++ entity ++ "'"
  | foreignRoot entity field root =>
    "Field '" ++ field ++ "' of index for '" ++ entity ++ "' starts at foreign root '" ++ root ++
      "'"
  | duplicateField entity field =>
    "Field '" ++ field ++ "' declared twice with different paths in index of '" ++ entity ++ "'"
  | mappingCycle root path entity property =>
    "Mapping cycle in index of '" ++ root ++ "': path '" ++ path ++ "' revisits '" ++ entity ++
      "." ++ property ++ "'"
  | pathTooDeep root path depth limit =>
    "Path '" ++ path ++ "' in index of '" ++ root ++ "' has " ++ toString depth ++
      " hops, max_path_depth is " ++ toString limit
  | duplicateDefinition entity index =>
    "Multiple index definitions detected for entity '" ++ entity ++ "' (index '" ++ index ++ "')"
  | invalidSchema fault => "Invalid schema: " ++ fault.message
  | file fault => "IO error: " ++ fault.message
  | malformed => "YAML parsing error: malformed document"

/-- The structure of a mapping is at fault, and not its names or its environment. -/
def isMappingError : TrackingError → Bool
  | mappingCycle .. | pathTooDeep .. | duplicateDefinition .. | duplicateField .. | emptyPath _
  | foreignRoot .. => true
  | _ => false

def sources : TrackingError → List String
  | config error => error.message :: error.source?.toList
  | file fault => [fault.message]
  | malformed => ["malformed document"]
  | _ => []

end TrackingError

end Reindex
