import TypeAnnotation.Command.Format
import TypeAnnotation.Command.Help

/-! # What the arguments ask for

The program's own options come first, then the name of a command, then its options and its
argument. Of two faults the one that comes first in the arguments is reported; what is given comes
before what is missing.
-/
namespace TypeAnnotation.Command

inductive Entry
  | missing
  | directory
  | file (text : String)
deriving DecidableEq, Repr

structure Surroundings where
  entry : String → Entry
  /-- The format to use where no option names one. -/
  format : Option String := none

inductive Invocation
  | help (topic : Topic)
  | version
  | normalize (settings : Settings) (expression : String)
  | batch (settings : Settings) (file text : String)
  | kinds
deriving Repr

/-- Why nothing can be done. Without any arguments there is help. -/
inductive Refusal
  | noArguments
  | misuse (topic : Topic) (problem : Misuse)
deriving Repr

def Refusal.message : Refusal → String
  | noArguments => Topic.program.help
  | misuse topic problem =>
    (if problem.showsUsage then
      topic.usage ++ "\nTry '" ++ topic.path ++ " --help' for help.\n\n"
    else "") ++ "Error: " ++ problem.message ++ "\n"

def readFormat (name : String) : Except Misuse Format :=
  match Format.ofName? name with
  | some format => .ok format
  | none => .error (.notAChoice name (Format.all.map Format.name))

def questionIn (given : List (Switch × String)) : Option Switch :=
  (given.map (·.1)).find? fun s => s = .help || s = .version

namespace Arguments

/-- The format, where `check` deals with the argument of the command. An option is looked at before
the argument, the surroundings after it. -/
def formatAround {α : Type} (a : Arguments) (s : Surroundings) (check : Except Misuse α) :
    Except Misuse (Format × α) :=
  match a.value? .format with
  | some name => do
    let format ← readFormat name
    return (format, ← check)
  | none => do
    let argument ← check
    match s.format with
    | some name =>
      if name = "" then return (.table, argument) else return (← readFormat name, argument)
    | none => return (.table, argument)

def argument (a : Arguments) (topic : Topic) : Except Misuse String :=
  match a.positional with
  | first :: _ => .ok first
  | [] => .error (.argumentMissing (topic.argument.getD ""))

def atMost (a : Arguments) (count : Nat) : Except Misuse Unit :=
  match a.positional.drop count with
  | [] => .ok ()
  | extra => .error (.extraArguments extra)

end Arguments

def readFile (s : Surroundings) (path : String) : Except Misuse (String × String) :=
  match s.entry path with
  | .file text => .ok (path, text)
  | .directory => .error (.fileIsDirectory path)
  | .missing => .error (.fileMissing path)

def readCommand (s : Surroundings) (verbose : Bool) (topic : Topic) (arguments : List String) :
    Except Misuse Invocation := do
  let a ← readArguments topic.flags true arguments
  if a.has .help then return .help topic
  match topic with
  | .normalize =>
    let (format, expression) ← a.formatAround s (a.argument .normalize)
    a.atMost 1
    return .normalize { format, verbose } expression
  | .batch =>
    let (format, file, text) ← a.formatAround s (a.argument .batch >>= readFile s)
    a.atMost 1
    return .batch { format, verbose } file text
  | .kinds | .program =>
    a.atMost 0
    return .kinds

def answerQuestion : Switch → Invocation
  | .version => .version
  | _ => .help .program

/-- What there is to say of a name that is no command. It is read as an option of the program
first. -/
def readUnknown (name : String) (rest : List String) : Except Misuse Invocation := do
  let a ← readArguments Topic.program.flags false (name :: rest)
  match questionIn a.given with
  | some question => return answerQuestion question
  | none => throw (.noSuchCommand name (Text.similarWords name (Topic.commands.map (·.1))))

def Invocation.ofArguments (s : Surroundings) (arguments : List String) :
    Except Refusal Invocation := do
  if arguments.isEmpty then throw .noArguments
  let about {α : Type} (topic : Topic) (result : Except Misuse α) : Except Refusal α :=
    result.mapError (.misuse topic)
  let a ← about .program (readArguments Topic.program.flags false arguments)
  match questionIn a.given, a.positional with
  | some question, _ => return answerQuestion question
  | none, [] => throw (.misuse .program .commandMissing)
  | none, name :: rest =>
    match Topic.commands.lookup name with
    | some topic => about topic (readCommand s (a.has .verbose) topic rest)
    | none => about .program (readUnknown name rest)

end TypeAnnotation.Command
