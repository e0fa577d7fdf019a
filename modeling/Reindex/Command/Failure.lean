import Reindex.Error

namespace Reindex.Command

structure Failure where
  activity : String
  /-- Causes, the nearest first. -/
  causes : List String
  deriving DecidableEq, Repr

namespace Failure

def ofConfigError (activity : String) (error : ConfigError) : Failure :=
  ⟨activity, error.message :: error.source?.toList⟩

def ofTrackingError (activity : String) (error : TrackingError) : Failure :=
  ⟨activity, error.message :: error.sources⟩

def padLeft (width : Nat) (text : String) : String :=
  String.ofList (List.replicate (width - text.length) ' ') ++ text

def indented (lead cause : String) : String :=
  let blank := String.ofList (List.replicate lead.length ' ')
  lead ++ String.ofList (cause.toList.flatMap
    (fun c => if c = '\n' then '\n' :: blank.toList else [c]))

def causeTexts : List String → List String
  | [cause] => [indented "    " cause]
  | causes => causes.zipIdx.map (fun (cause, n) => indented (padLeft 5 (toString n) ++ ": ") cause)

def text (failure : Failure) : String :=
  let head := "Error: " ++ failure.activity ++ "\n"
  if failure.causes.isEmpty then head
  else head ++ "\nCaused by:\n" ++ String.join ((causeTexts failure.causes).map (· ++ "\n"))

end Failure

end Reindex.Command
