import TypeAnnotation.Command.Format
import TypeAnnotation.Yaml.Load

/-! # Normalizing many annotations

A YAML text holds annotations under names or in a list, where they are named by their places. Each
is normalized for itself. Those that cannot be are reported and left out.
-/
namespace TypeAnnotation.Command

namespace Batch

def namedEntries : List (Yaml.Value × Yaml.Value) →
    Except Text.NumeralError (List (String × Yaml.Value))
  | [] => return []
  | (key, value) :: rest => do
    let name ← key.name
    return (name, value) :: (← namedEntries rest)

/-- The names and the values that should be annotations. -/
def entries? : Yaml.Value → Option (Except Text.NumeralError (List (String × Yaml.Value)))
  | .list items => some (.ok (items.zipIdx.map fun (value, place) => (toString place, value)))
  | .mapping entries => some (namedEntries entries)
  | _ => none

/-- Why an entry is left out. -/
inductive Complaint
  | notText (value : Yaml.Value)
  | syntaxError (error : SyntaxError)
deriving Repr

def Complaint.message : Complaint → Except Text.NumeralError String
  | notText value => do return "expected an annotation string, got " ++ (← value.display)
  | syntaxError error => return error.message

structure Normalized where
  expression : String
  result : Logged (List Descriptor)
deriving Repr

def normalizeValue : Yaml.Value → Except Complaint Normalized
  | .string expression =>
    match normalizeText expression with
    | .ok result => .ok ⟨expression, result⟩
    | .error e => .error (.syntaxError e)
  | value => .error (.notText value)

/-- Whether an entry is left out. -/
def isInvalid (value : Yaml.Value) : Bool :=
  match normalizeValue value with
  | .ok _ => false
  | .error _ => true

def complain (s : Settings) (name : String) (c : Complaint) : Writing :=
  match c.message with
  | .ok message => .paragraph s.format.reports ("  [red]x[/] " ++ (name ++ ": " ++ message))
  | .error error => .broken s.format.reports (.numeral error)

/-- What is written for an entry when its turn comes. Documents wait until the end. -/
def entryWritings (s : Settings) (name : String) (value : Yaml.Value) : List Writing :=
  match normalizeValue value with
  | .error c => [complain s name c]
  | .ok n =>
    s.log n.result ++
      if s.format = .table then [tabulate (name ++ ": " ++ n.expression) n.result.value] else []

section
variable {α : Type}

/-- Give a name its value, in the place of an earlier one or else at the end. -/
def put (name : String) (value : α) : List (String × α) → List (String × α)
  | [] => [(name, value)]
  | (other, old) :: rest =>
    if other = name then (name, value) :: rest else (other, old) :: put name value rest

theorem map_fst_put (name : String) (value : α) (results : List (String × α)) :
    (put name value results).map (·.1) =
      if name ∈ results.map (·.1) then results.map (·.1) else results.map (·.1) ++ [name] := by
  induction results with
  | nil => rfl
  | cons entry rest ih => grind [put]

theorem lookup_put (name other : String) (value : α) (results : List (String × α)) :
    (put name value results).lookup other =
      if other = name then some value else results.lookup other := by
  induction results with
  | nil => grind [put]
  | cons entry rest ih => grind [put]

theorem put_map {β : Type} (f : α → β) (name : String) (value : α) (results : List (String × α)) :
    put name (f value) (results.map fun entry => (entry.1, f entry.2)) =
      (put name value results).map fun entry => (entry.1, f entry.2) := by
  induction results with
  | nil => rfl
  | cons entry rest ih =>
    rw [List.map_cons, put, put]
    split
    · rfl
    · rw [ih, List.map_cons]

end

def collect (results : List (String × Document)) (entry : String × Yaml.Value) :
    List (String × Document) :=
  match normalizeValue entry.2 with
  | .ok n => put entry.1 (documentOf n.result.value) results
  | .error _ => results

def document (entries : List (String × Yaml.Value)) : Document :=
  .mapping (entries.foldl collect [])

def closing (format : Format) (entries : List (String × Yaml.Value)) : List Writing :=
  ((format.writeDocument? (document entries)).map (Writing.verbatim .stdout)).toList

def ofEntries (s : Settings) (entries : List (String × Yaml.Value)) : Report where
  writings :=
    entries.flatMap (fun (name, value) => entryWritings s name value) ++ closing s.format entries
  status := if entries.any (isInvalid ·.2) then .failure else .success

/-- The annotations of a value that has been read. -/
def ofValue (s : Settings) (value : Yaml.Value) : Report :=
  match entries? value with
  | some (.ok entries) => ofEntries s entries
  | some (.error error) => ⟨[.broken .stdout (.numeral error)], .failure⟩
  | none =>
    ⟨[.paragraph .stdout "[red]Expected a mapping or a list of annotations.[/]"], .failure⟩

end Batch

/-- The annotations of a file, given its name and its text. A faulty scalar is not reported. -/
def batch (s : Settings) (file text : String) : Report :=
  match Yaml.Value.ofText text with
  | .ok value => Batch.ofValue s value
  | .error (.faulty fault) => ⟨[.broken .stdout (.scalar fault)], .failure⟩
  | .error e =>
    ⟨[.paragraph .stdout ("[red]Failed to read " ++ file ++ ":[/] " ++ e.message file)], .failure⟩

end TypeAnnotation.Command
