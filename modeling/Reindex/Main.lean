import Reindex.Command.Run

namespace Reindex

/-- Why the system refuses to open or to read a file. Reading a directory fails without a name. -/
def faultOf : IO.Error → FileFault
  | .inappropriateType none _ _ => .isDirectory
  | .inappropriateType (some _) _ _ => .notADirectory
  | .permissionDenied _ _ _ => .denied
  | .invalidArgument _ _ _ => .nameTooLong
  | _ => .notFound

def readContents (path : String) : IO Contents := do
  try
    return Contents.ofBytes (← IO.FS.readBinFile path)
  catch error =>
    return .error (faultOf error)

def runMain (args : List String) : IO UInt32 := do
  match ← Command.run readContents args with
  | .printed output warnings =>
    warnings.forM (fun warning => IO.eprintln warning.message)
    IO.print output
    return 0
  | .failed failure warnings =>
    warnings.forM (fun warning => IO.eprintln warning.message)
    IO.eprint failure.text
    return 1
  | .refused =>
    IO.eprint Command.Topic.general.text
    return 2

end Reindex

def main (args : List String) : IO UInt32 := Reindex.runMain args
