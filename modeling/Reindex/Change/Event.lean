import Reindex.Error

namespace Reindex

inductive Change where
  | created (entity : EntityName) (id : String)
  | updated (entity : EntityName) (id : String) (properties : List String)
  | deleted (entity : EntityName) (id : String)
  deriving DecidableEq, Repr

namespace Change

def entity : Change → EntityName
  | created entity _ | updated entity _ _ | deleted entity _ => entity

def id : Change → String
  | created _ id | updated _ id _ | deleted _ id => id

end Change

inductive ChangeFault where
  | missingId (entity : EntityName)
  | other (description : String)
  deriving DecidableEq, Repr

def ChangeFault.message : ChangeFault → String
  | missingId entity => "Change of '" ++ entity ++ "' without instance id"
  | other description => description

inductive ChangeError where
  | tracking (error : TrackingError)
  | queue (reason : String)
  | invalidEvent (fault : ChangeFault)
  deriving DecidableEq, Repr

namespace ChangeError

def kind : ChangeError → String
  | tracking _ => "tracking"
  | queue _ => "queue"
  | invalidEvent _ => "invalid_event"

def text : ChangeError → String
  | tracking error => "Tracking error: " ++ error.message
  | queue reason => reason
  | invalidEvent fault => fault.message

def message (error : ChangeError) : String := "[" ++ error.kind ++ "] " ++ error.text

end ChangeError

end Reindex
