import Reindex.Entity

namespace Reindex.Command

inductive Topic where
  | general
  | inspect
  | update
  | delete
  | help
  deriving DecidableEq, Repr

def Topic.ofName? : String → Option Topic
  | "inspect" => some inspect
  | "update" => some update
  | "delete" => some delete
  | "help" => some help
  | _ => none

structure OptionForm where
  name : String
  letter : Option Char
  repeatable : Bool
  accepts : String → Bool

abbrev Given := List (String × String)

namespace Given

def values (given : Given) (name : String) : List String :=
  (given.filter (fun option => option.1 == name)).map Prod.snd

def value? (given : Given) (name : String) : Option String := (given.values name).head?

def add? (given : Given) (form : OptionForm) (value : String) : Option Given :=
  if form.accepts value && (form.repeatable || (given.value? form.name).isNone) then
    some (given ++ [(form.name, value)])
  else none

end Given

/-- Options read so far, and the last one with its value if that has come. -/
structure Reading where
  given : Given
  pending : Option (OptionForm × Option String)

namespace Reading

def start : Reading := ⟨[], none⟩

def isWaiting (reading : Reading) : Bool := reading.pending.any (fun (_, value) => value.isNone)

def settle? (reading : Reading) : Option Given :=
  match reading.pending with
  | none => some reading.given
  | some (_, none) => none
  | some (form, some value) => reading.given.add? form value

inductive Ending where
  | finished (given : Given)
  | subcommand (reading : Reading) (topic : Topic) (args : List String)
  | help
  | refused

inductive Shape where
  | long (name : String) (value : Option String)
  | short (letter : Char) (attached : List Char)
  | word

def shapeOf (arg : String) : Shape :=
  match arg.toList with
  | '-' :: '-' :: cs =>
    let name := cs.takeWhile (· != '=')
    let value := match cs.dropWhile (· != '=') with
      | [] => none
      | _ :: value => some (String.ofList value)
    .long (String.ofList name) value
  | '-' :: c :: cs => .short c cs
  | _ => .word

/-- A value right behind a letter may be set off by an equals sign. -/
def attachedValue : List Char → Option String
  | [] => none
  | '=' :: cs => some (String.ofList cs)
  | cs => some (String.ofList cs)

def begin? (reading : Reading) (form : OptionForm) (value : Option String) : Option Reading := do
  let given ← reading.settle?
  match value with
  | none => some ⟨given, some (form, none)⟩
  | some value => some ⟨← given.add? form value, none⟩

def helpOrRefuse (reading : Reading) : Ending := if reading.settle?.isSome then .help else .refused

/-- Reads arguments up to the first subcommand, if subcommands are allowed. -/
def run (forms : List OptionForm) (subcommands : Bool) (reading : Reading) :
    List String → Ending
  | [] => (reading.settle?).elim .refused .finished
  | arg :: args =>
    match (if subcommands && !reading.isWaiting then Topic.ofName? arg else none) with
    | some topic => .subcommand reading topic args
    | none =>
      if arg == "--" then
        if args.isEmpty then (reading.settle?).elim .refused .finished else .refused
      else match shapeOf arg with
        | .long name value =>
          match forms.find? (fun form => form.name == name) with
          | some form =>
            (reading.begin? form value).elim .refused (fun r => run forms subcommands r args)
          | none => if name == "help" && value.isNone then reading.helpOrRefuse else .refused
        | .short letter attached =>
          match forms.find? (fun form => form.letter == some letter) with
          | some form =>
            (reading.begin? form (attachedValue attached)).elim .refused
              (fun r => run forms subcommands r args)
          | none => if letter == 'h' then reading.helpOrRefuse else .refused
        | .word =>
          match reading.pending with
          | some (form, none) =>
            run forms subcommands { reading with pending := some (form, some arg) } args
          | _ => .refused

end Reading

end Reindex.Command
