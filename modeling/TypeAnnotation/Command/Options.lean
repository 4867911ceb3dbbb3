import TypeAnnotation.Text.Quoted
import TypeAnnotation.Text.Similarity

/-! # Command-line arguments

An argument that begins with a hyphen is an option: two hyphens and its name, or one hyphen and
letters. A value stands behind the name and an equals sign, behind the letter, or in the next
argument. Two hyphens alone end the options.
-/
namespace TypeAnnotation.Command

inductive Switch
  | version
  | verbose
  | format
  | help
deriving DecidableEq, Repr

structure Flag where
  switch : Switch
  short : Option Char
  long : String
  takesValue : Bool
deriving DecidableEq, Repr

inductive Misuse
  | noSuchOption (name : String) (similar : List String)
  | valueMissing (name : String)
  | valueRefused (name : String)
  | argumentMissing (name : String)
  | extraArguments (arguments : List String)
  | notAChoice (value : String) (choices : List String)
  | fileMissing (path : String)
  | fileIsDirectory (path : String)
  | commandMissing
  | noSuchCommand (name : String) (similar : List String)
deriving DecidableEq, Repr

namespace Misuse

def suggestion (similar : List String) : String :=
  match (similar.mergeSort (· ≤ ·)).map Text.quote with
  | [] => ""
  | [name] => " Did you mean " ++ name ++ "?"
  | names => " (Did you mean one of: " ++ ", ".intercalate names ++ "?)"

def message : Misuse → String
  | noSuchOption name similar => "No such option " ++ Text.quote name ++ "." ++ suggestion similar
  | valueMissing name => "Option " ++ Text.quote name ++ " requires an argument."
  | valueRefused name => "Option " ++ Text.quote name ++ " does not take a value."
  | argumentMissing name => "Missing argument '" ++ name ++ "'."
  | extraArguments [argument] => "Got unexpected extra argument (" ++ argument ++ ")"
  | extraArguments arguments =>
    "Got unexpected extra arguments (" ++ " ".intercalate arguments ++ ")"
  | notAChoice value choices =>
    "Invalid value for '--format' / '-f': " ++ Text.quote value ++ " is not one of " ++
      ", ".intercalate (choices.map Text.quote) ++ "."
  | fileMissing path =>
    "Invalid value for 'ANNOTATIONS_FILE': File " ++ Text.quote path ++ " does not exist."
  | fileIsDirectory path =>
    "Invalid value for 'ANNOTATIONS_FILE': File " ++ Text.quote path ++ " is a directory."
  | commandMissing => "Missing command."
  | noSuchCommand name similar => "No such command " ++ Text.quote name ++ "." ++ suggestion similar

def showsUsage : Misuse → Bool
  | valueMissing _ | valueRefused _ => false
  | _ => true

end Misuse

structure Arguments where
  given : List (Switch × String) := []
  positional : List String := []
deriving Repr

namespace Arguments

def has (a : Arguments) (s : Switch) : Bool := a.given.any (·.1 = s)

/-- The value of an option, the last one if it is given more than once. -/
def value? (a : Arguments) (s : Switch) : Option String := a.given.reverse.lookup s

end Arguments

/-- The options that one argument gives, and the one that takes its value from the next. -/
structure Given where
  options : List (Switch × String) := []
  waiting : Option (Switch × String) := none

def readLetters (flags : List Flag) : List Char → Except Misuse Given
  | [] => .ok {}
  | c :: rest =>
    let name := String.ofList ['-', c]
    match flags.find? (·.short == some c) with
    | none => .error (.noSuchOption name [])
    | some flag =>
      if flag.takesValue then
        if rest.isEmpty then .ok { waiting := some (flag.switch, name) }
        else .ok { options := [(flag.switch, String.ofList rest)] }
      else do
        let more ← readLetters flags rest
        return { more with options := (flag.switch, "") :: more.options }

def readOption (flags : List Flag) (argument : String) : Except Misuse Given :=
  let text := argument.toList
  let name := String.ofList (text.takeWhile (· != '='))
  let value? := match text.dropWhile (· != '=') with
    | _ :: value => some (String.ofList value)
    | [] => none
  match flags.find? (·.long == name), value? with
  | some flag, some value =>
    if flag.takesValue then .ok { options := [(flag.switch, value)] }
    else .error (.valueRefused name)
  | some flag, none =>
    if flag.takesValue then .ok { waiting := some (flag.switch, name) }
    else .ok { options := [(flag.switch, "")] }
  | none, _ =>
    if "--".toList.isPrefixOf text then
      .error (.noSuchOption name (Text.similarWords name (flags.map Flag.long)))
    else readLetters flags (text.drop 1)

/-- Whether an argument is an option. A hyphen alone is none. -/
def isOption (argument : String) : Bool :=
  match argument.toList with
  | '-' :: _ :: _ => true
  | _ => false

/-- Read arguments. Options may stand behind other arguments only where `interspersed` says so. -/
def readArguments (flags : List Flag) (interspersed : Bool) :
    List String → Except Misuse Arguments
  | [] => .ok {}
  | [argument] =>
    if argument = "--" then .ok {}
    else if isOption argument then do
      let given ← readOption flags argument
      match given.waiting with
      | some (_, name) => .error (.valueMissing name)
      | none => return { given := given.options }
    else .ok { positional := [argument] }
  | argument :: next :: rest =>
    if argument = "--" then .ok { positional := next :: rest }
    else if isOption argument then do
      let given ← readOption flags argument
      match given.waiting with
      | some (switch, _) =>
        let more ← readArguments flags interspersed rest
        return { more with given := given.options ++ (switch, next) :: more.given }
      | none =>
        let more ← readArguments flags interspersed (next :: rest)
        return { more with given := given.options ++ more.given }
    else if interspersed then do
      let more ← readArguments flags interspersed (next :: rest)
      return { more with positional := argument :: more.positional }
    else .ok { positional := argument :: next :: rest }

end TypeAnnotation.Command
