import TypeAnnotation.Command.Batch
import TypeAnnotation.Command.Invocation
import TypeAnnotation.Command.Kinds
import TypeAnnotation.Command.Normalize

/-! # Running the program

What the program does for its arguments, as a function of what it can see.
-/
namespace TypeAnnotation.Command

def versionText : String := "typenorm, version 0.1.0\n"

def Invocation.report : Invocation → Report
  | help topic => ⟨[.verbatim .stdout topic.help], .success⟩
  | version => ⟨[.verbatim .stdout versionText], .success⟩
  | normalize settings expression => Command.normalize settings expression
  | batch settings file text => Command.batch settings file text
  | kinds => Command.kinds

def reportOf (s : Surroundings) (arguments : List String) : Report :=
  match Invocation.ofArguments s arguments with
  | .ok invocation => invocation.report
  | .error refusal => ⟨[.verbatim .stderr refusal.message], .misuse⟩

def run (s : Surroundings) (arguments : List String) : Outcome := (reportOf s arguments).outcome

end TypeAnnotation.Command
