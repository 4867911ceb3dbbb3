import TypeAnnotation.Command.Outcome
import TypeAnnotation.Document.Json
import TypeAnnotation.Document.Yaml
import TypeAnnotation.Normalize

/-! # Showing descriptors

Descriptors are shown as a table for reading or as a document for other programs.
-/
namespace TypeAnnotation.Command

inductive Format
  | table
  | json
  | yaml
deriving DecidableEq, Repr

namespace Format

def all : List Format := [table, json, yaml]

def name : Format → String
  | table => "table"
  | json => "json"
  | yaml => "yaml"

def ofName? (name : String) : Option Format := all.find? (·.name == name)

def writeDocument? (document : Document) : Format → Option String
  | table => none
  | json => some (document.toJson ++ "\n")
  | yaml => some document.toYaml

/-- Where reports of errors go, so that a document stands alone on the standard output. -/
def reports : Format → Channel
  | table => .stdout
  | json | yaml => .stderr

end Format

/-- The descriptors as a document. -/
def documentOf (ds : List Descriptor) : Document := .list (ds.map Descriptor.toDocument)

def slotCell (slot : Option Descriptor) : String := (slot.map Descriptor.render).getD ""

def descriptorTable (title : String) (ds : List Descriptor) : Layout.Table String where
  title
  columns := [
    { header := "Type", cells := ds.map Descriptor.render },
    { header := "Kind", cells := ds.map (·.kind.name) },
    { header := "Class", cells := ds.map (·.className.getD "") },
    { header := "Nullable", centered := true,
      cells := ds.map fun d => if d.nullable then "[green]Y[/]" else "[dim]N[/]" },
    { header := "Key", cells := ds.map (slotCell ·.key) },
    { header := "Value", cells := ds.map (slotCell ·.value) }]

def tabulate (title : String) (ds : List Descriptor) : Writing :=
  if ds.isEmpty then .paragraph .stdout ("[yellow]" ++ title ++ ": no type information.[/]")
  else .table .stdout (descriptorTable title ds)

def present (format : Format) (title : String) (ds : List Descriptor) : Writing :=
  match format.writeDocument? (documentOf ds) with
  | some text => .verbatim .stdout text
  | none => tabulate title ds

def logWritings (notes : List Note) : List Writing :=
  notes.map fun n =>
    .verbatim .stderr ("DEBUG typenorm.normalizer.type_normalizer: " ++ n.message ++ "\n")

structure Settings where
  format : Format := .table
  verbose : Bool := false
deriving DecidableEq, Repr

def Settings.log {α : Type} (s : Settings) (result : Logged α) : List Writing :=
  if s.verbose then logWritings result.notes else []

end TypeAnnotation.Command
