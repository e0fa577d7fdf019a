import Reindex.Command.Failure
import Reindex.Command.Help
import Reindex.Command.Report
import Reindex.Dependency.Compilation
import Reindex.Load

namespace Reindex.Command

inductive Outcome where
  | printed (output : String) (warnings : List DroppedIndex)
  | failed (failure : Failure) (warnings : List DroppedIndex)
  | refused

namespace Invocation

structure Sources where
  config : Option Contents
  schema : Contents
  indexes : Contents

variable (invocation : Invocation) (sources : Sources)

def configOf : Except Failure Config :=
  match invocation.config, sources.config with
  | some path, some contents =>
    (Config.load Yaml.format contents).mapError (Failure.ofConfigError ("loading config " ++ path))
  | _, _ => .ok Config.standard

def schemaOf : Except Failure Schema :=
  (Schema.load Yaml.format sources.schema).mapError
    (Failure.ofTrackingError ("loading schema " ++ invocation.schema))

def definitionsOf : Except Failure (List Definition) :=
  (DefinitionsFile.load Yaml.format sources.indexes).mapError
    (Failure.ofTrackingError ("loading index definitions " ++ invocation.indexes))

def report (config : Config) (schema : Schema) (definitions : List Definition) : Outcome :=
  let build := Compilation.compileDefinitions schema config definitions
  match build.outcome with
  | .error error =>
    .failed (Failure.ofTrackingError "compiling index definitions" error) build.dropped
  | .ok snapshot =>
    .printed (Report.text invocation.format (.ofConfig config.settings) snapshot invocation.query)
      build.dropped

def run : Outcome :=
  let loaded := do
    let config ← invocation.configOf sources
    let schema ← invocation.schemaOf sources
    let definitions ← invocation.definitionsOf sources
    return (config, schema, definitions)
  match loaded with
  | .error failure => .failed failure []
  | .ok (config, schema, definitions) => invocation.report config schema definitions

end Invocation

/-- Runs the command line, with a function that reads files. -/
def run {m : Type → Type} [Monad m] (read : String → m Contents) (args : List String) :
    m Outcome :=
  match Demand.ofArguments args with
  | .refused => pure .refused
  | .help topic => pure (.printed topic.text [])
  | .run invocation => do
    let config ← invocation.config.mapM read
    let schema ← read invocation.schema
    let indexes ← read invocation.indexes
    return invocation.run ⟨config, schema, indexes⟩

end Reindex.Command
