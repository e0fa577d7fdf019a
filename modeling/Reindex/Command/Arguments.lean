import Reindex.Command.Options

namespace Reindex.Command

inductive Format where
  | text
  | json
  deriving DecidableEq, Repr

def Format.ofName? : String → Option Format
  | "text" => some text
  | "json" => some json
  | _ => none

inductive Query where
  | inspect
  | update (entity : EntityName) (properties : List String)
  | delete (entity : EntityName)
  deriving DecidableEq, Repr

structure Invocation where
  schema : String
  indexes : String
  config : Option String
  format : Format
  query : Query
  deriving DecidableEq, Repr

inductive Demand where
  | run (invocation : Invocation)
  | help (topic : Topic)
  | refused
  deriving DecidableEq, Repr

namespace Demand

def isPath (value : String) : Bool := value != ""

def globalOptions : List OptionForm :=
  [⟨"schema", none, false, isPath⟩, ⟨"indexes", none, false, isPath⟩,
    ⟨"config", none, false, isPath⟩, ⟨"format", none, false, fun v => (Format.ofName? v).isSome⟩]

def entityOption : OptionForm := ⟨"entity", some 'e', false, fun _ => true⟩

def propertyOption : OptionForm := ⟨"property", some 'p', true, fun _ => true⟩

def optionsOf : Topic → List OptionForm
  | .general => globalOptions
  | .update => [entityOption, propertyOption]
  | .delete => [entityOption]
  | .inspect | .help => []

def query? (topic : Topic) (given : Given) : Option Query :=
  match topic with
  | .inspect => some .inspect
  | .update => do
    let entity ← given.value? "entity"
    let properties := given.values "property"
    if properties.isEmpty then none else some (.update entity properties)
  | .delete => (given.value? "entity").map .delete
  | .general | .help => none

def invocation? (given : Given) (query : Query) : Option Invocation := do
  let schema ← given.value? "schema"
  let indexes ← given.value? "indexes"
  let format ← match given.value? "format" with
    | none => some .text
    | some name => Format.ofName? name
  some ⟨schema, indexes, given.value? "config", format, query⟩

def helpTopic? : List String → Option Topic
  | [] => some .general
  | [name] => Topic.ofName? name
  | _ => none

/-- Reads a subcommand and its options, behind global options that are still to be settled. -/
def ofSubcommand (reading : Reading) (topic : Topic) (args : List String) : Demand :=
  match topic with
  | .help => (helpTopic? args).elim refused help
  | topic =>
    match Reading.run (optionsOf topic) false .start args with
    | .help => help topic
    | .finished inner =>
      match (query? topic inner, reading.settle?) with
      | (some query, some given) => (invocation? given query).elim refused run
      | _ => refused
    | _ => refused

/-- What the arguments ask for. Options of a subcommand stand behind its name, all others before
it. -/
def ofArguments (args : List String) : Demand :=
  match Reading.run (optionsOf .general) true .start args with
  | .help => help .general
  | .subcommand reading topic args => ofSubcommand reading topic args
  | .finished _ | .refused => refused

end Demand

end Reindex.Command
