import TypeAnnotation.Command.Format

/-! # Normalizing one annotation

The descriptors of an annotation are shown under its text. An error is reported instead, also where
a document was asked for.
-/
namespace TypeAnnotation.Command

def normalize (s : Settings) (expression : String) : Report :=
  match normalizeText expression with
  | .error e => ⟨[.paragraph .stdout ("[red]Invalid annotation:[/] " ++ e.message)], .failure⟩
  | .ok result => ⟨s.log result ++ [present s.format expression result.value], .success⟩

end TypeAnnotation.Command
