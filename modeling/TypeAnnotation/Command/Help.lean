import TypeAnnotation.Command.Options

/-! # Help

The usage lines and the help texts of the program and of its commands.
-/
namespace TypeAnnotation.Command

inductive Topic
  | program
  | normalize
  | batch
  | kinds
deriving DecidableEq, Repr

structure Definition where
  term : String
  meaning : String
deriving Repr

def defineAll (definitions : List Definition) : List String :=
  let room := (definitions.map (·.term.length)).foldl Nat.max 0 + 2
  definitions.map fun d => "  " ++ d.term.pushn ' ' (room - d.term.length) ++ d.meaning

namespace Topic

def commands : List (String × Topic) :=
  [("batch", batch), ("kinds", kinds), ("normalize", normalize)]

def path : Topic → String
  | program => "typenorm"
  | normalize => "typenorm normalize"
  | batch => "typenorm batch"
  | kinds => "typenorm kinds"

def argument : Topic → Option String
  | normalize => some "EXPRESSION"
  | batch => some "ANNOTATIONS_FILE"
  | program | kinds => none

def flags : Topic → List Flag
  | program => [
      ⟨.version, none, "--version", false⟩,
      ⟨.verbose, some 'v', "--verbose", false⟩,
      ⟨.help, none, "--help", false⟩]
  | normalize | batch => [⟨.format, some 'f', "--format", true⟩, ⟨.help, none, "--help", false⟩]
  | kinds => [⟨.help, none, "--help", false⟩]

def description : Topic → List String
  | program => [
      "typenorm — canonical type descriptors from doc-comment annotations.",
      "",
      "Turns annotations such as \"int|null\", \"string[]\" or \"Collection<string,",
      "\\App\\User>\" into structured type descriptors."]
  | normalize => [
      "Normalize a single type annotation.",
      "",
      "EXPRESSION is the annotation text, e.g. \"int[]|null\"."]
  | batch => [
      "Normalize every annotation listed in a YAML file.",
      "",
      "The file holds either a mapping of name to annotation, or a plain list of",
      "annotations. Invalid entries are reported and skipped."]
  | kinds => ["List the builtin kinds and the synonyms folded onto them."]

def usage (t : Topic) : String :=
  "Usage: " ++ t.path ++ " [OPTIONS]" ++
    match t, t.argument with
    | program, _ => " COMMAND [ARGS]..."
    | _, some name => " " ++ name
    | _, none => ""

end Topic

def Switch.meaning : Switch → String
  | version => "Show the version and exit."
  | verbose => "Log normalization decisions"
  | format => "Output format"
  | help => "Show this message and exit."

def Flag.definition (f : Flag) : Definition where
  term :=
    (match f.short with
      | some c => String.ofList ['-', c, ',', ' ']
      | none => "") ++ f.long ++ (if f.takesValue then " [table|json|yaml]" else "")
  meaning := f.switch.meaning

namespace Topic

def listing (t : Topic) : List String :=
  match t with
  | program =>
    let definitions := commands.map fun (name, command) =>
      ⟨name, command.description.headD ""⟩
    ["", "Commands:"] ++ defineAll definitions
  | _ => []

def help (t : Topic) : String :=
  let paragraphs := t.description.map fun line => if line = "" then "" else "  " ++ line
  let lines := [t.usage, ""] ++ paragraphs ++ ["", "Options:"] ++
    defineAll (t.flags.map Flag.definition) ++ t.listing
  String.join (lines.map (· ++ "\n"))

end Topic

end TypeAnnotation.Command
