import TypeAnnotation.Command.Format
import TypeAnnotation.Proofs.ClassNames
import TypeAnnotation.Proofs.YamlText

/-! # Reading descriptors

Descriptors can be told from the document that they are written as, and so from its text in either
format. The fields are the six of a descriptor, under their names and in their order.
-/
namespace TypeAnnotation

namespace Descriptor

def classOf? : Document → Option (Option String)
  | .null => some none
  | .string className => some (some className)
  | _ => none

mutual

/-- The descriptor that a document is, if it is a mapping of the six fields in their order. -/
def ofDocument? : Document → Option Descriptor
  | .mapping [("kind", .string kind), ("nullable", .bool nullable), ("class_name", className),
      ("is_collection", .bool isCollection), ("collection_key_type", key),
      ("collection_value_type", value)] => do
    return ⟨← Kind.ofName? kind, nullable, ← classOf? className, isCollection, ← slotOf? key,
      ← slotOf? value⟩
  | _ => none

def slotOf? : Document → Option (Option Descriptor)
  | .null => some none
  | document => (ofDocument? document).map some

end

theorem slotOf?_toDocument (d : Descriptor) :
    slotOf? d.toDocument = (ofDocument? d.toDocument).map some := by
  obtain ⟨kind, nullable, className, isCollection, key, value⟩ := d
  cases className with
  | none =>
    rw [toDocument, slotOf?]
    exact nofun
  | some className =>
    rw [toDocument, slotOf?]
    exact nofun

mutual

theorem ofDocument?_toDocument : ∀ d : Descriptor, ofDocument? d.toDocument = some d
  | ⟨kind, nullable, className, isCollection, key, value⟩ => by
    have hkey := slotOf?_slotToDocument key
    have hvalue := slotOf?_slotToDocument value
    cases className with
    | none =>
      rw [toDocument, ofDocument?, Kind.ofName?_name, hkey, hvalue]
      rfl
    | some className =>
      rw [toDocument, ofDocument?, Kind.ofName?_name, hkey, hvalue]
      rfl

theorem slotOf?_slotToDocument : ∀ slot : Option Descriptor,
    slotOf? (slotToDocument slot) = some slot
  | none => by rw [slotToDocument, slotOf?]
  | some d => by rw [slotToDocument, slotOf?_toDocument, ofDocument?_toDocument d, Option.map_some]

end

mutual

/-- Nothing but a class can bring a space into the document of a descriptor. -/
theorem spaceless_toDocument : ∀ {d : Descriptor}, d.ClassesAmong (fun c => ' ' ∉ c.toList) →
    d.toDocument.Spaceless
  | ⟨kind, nullable, className, isCollection, key, value⟩, h => by
    have hkind : ' ' ∉ kind.name.toList := by cases kind <;> decide
    have hkey := spaceless_slotToDocument fun k hk p hp => h p (.key hk hp)
    have hvalue := spaceless_slotToDocument fun v hv p hp => h p (.value hv hp)
    have hclass := h _ (.self _)
    cases className with
    | none =>
      rw [toDocument]
      exact ⟨⟨by decide, hkind⟩, ⟨by decide, trivial⟩, ⟨by decide, trivial⟩, ⟨by decide, trivial⟩,
        ⟨by decide, hkey⟩, ⟨by decide, hvalue⟩, trivial⟩
    | some className =>
      rw [toDocument]
      exact ⟨⟨by decide, hkind⟩, ⟨by decide, trivial⟩, ⟨by decide, hclass className rfl⟩,
        ⟨by decide, trivial⟩, ⟨by decide, hkey⟩, ⟨by decide, hvalue⟩, trivial⟩

theorem spaceless_slotToDocument : ∀ {slot : Option Descriptor},
    (∀ d ∈ slot, d.ClassesAmong fun c => ' ' ∉ c.toList) → (slotToDocument slot).Spaceless
  | none, _ => by
    rw [slotToDocument]
    trivial
  | some d, h => by
    rw [slotToDocument]
    exact spaceless_toDocument (h d rfl)

end

end Descriptor

namespace Command

def descriptorsOf? : Document → Option (List Descriptor)
  | .list items => items.mapM Descriptor.ofDocument?
  | _ => none

def resultsOf? : Document → Option (List (String × List Descriptor))
  | .mapping entries => entries.mapM fun (name, document) => (descriptorsOf? document).map (name, ·)
  | _ => none

def Format.readDocument? (text : String) : Format → Option Document
  | table => none
  | json => Document.Json.read text
  | yaml => Document.Yaml.read text

theorem descriptorsOf?_documentOf (ds : List Descriptor) :
    descriptorsOf? (documentOf ds) = some ds := by
  rw [documentOf, descriptorsOf?]
  induction ds with
  | nil => rfl
  | cons d ds ih =>
    rw [List.map_cons, List.mapM_cons, Descriptor.ofDocument?_toDocument, ih]
    rfl

def resultEntry (row : String × List Descriptor) : String × Document := (row.1, documentOf row.2)

def resultsDocument (rows : List (String × List Descriptor)) : Document :=
  .mapping (rows.map resultEntry)

theorem resultsOf?_resultsDocument (rows : List (String × List Descriptor)) :
    resultsOf? (resultsDocument rows) = some rows := by
  rw [resultsDocument, resultsOf?]
  induction rows with
  | nil => rfl
  | cons row rows ih =>
    rw [List.map_cons, List.mapM_cons, ih, resultEntry]
    dsimp only
    rw [descriptorsOf?_documentOf]
    rfl

/-- No class in the descriptors has a space in it, at any depth. -/
def SpacelessClasses (ds : List Descriptor) : Prop :=
  ∀ d ∈ ds, d.ClassesAmong fun c => ' ' ∉ c.toList

theorem SpacelessClasses.items {ds : List Descriptor} (h : SpacelessClasses ds) :
    Document.SpacelessItems (ds.map Descriptor.toDocument) := by
  induction ds with
  | nil => trivial
  | cons d ds ih =>
    obtain ⟨hd, hds⟩ := List.forall_mem_cons.mp h
    exact ⟨Descriptor.spaceless_toDocument hd, ih hds⟩

/-- A text in either format is read as what it was written for. -/
theorem Format.read_documentOf {format : Format} {ds : List Descriptor} (h : SpacelessClasses ds)
    {text : String} (ht : format.writeDocument? (documentOf ds) = some text) :
    (format.readDocument? text).bind descriptorsOf? = some ds := by
  have hread : format.readDocument? text = some (documentOf ds) := by
    cases format with
    | table => cases ht
    | json =>
      obtain rfl := Option.some.inj ht
      exact Document.Json.read_toJson _
    | yaml =>
      obtain rfl := Option.some.inj ht
      exact Document.Yaml.read_toYaml_list h.items
  rw [hread, Option.bind_some, descriptorsOf?_documentOf]

theorem Format.read_resultsDocument {format : Format} {rows : List (String × List Descriptor)}
    (h : ∀ row ∈ rows, SpacelessClasses row.2) {text : String}
    (ht : format.writeDocument? (resultsDocument rows) = some text) :
    (format.readDocument? text).bind resultsOf? = some rows := by
  have hfit : Document.FitEntries 0 (rows.map resultEntry) := by
    intro entry hentry
    obtain ⟨row, hrow, rfl⟩ := List.mem_map.mp hentry
    exact ⟨.inl (by decide), (h row hrow).items⟩
  have hread : format.readDocument? text = some (resultsDocument rows) := by
    cases format with
    | table => cases ht
    | json =>
      obtain rfl := Option.some.inj ht
      exact Document.Json.read_toJson _
    | yaml =>
      obtain rfl := Option.some.inj ht
      exact Document.Yaml.read_toYaml_mapping hfit
  rw [hread, Option.bind_some, resultsOf?_resultsDocument]

end Command

end TypeAnnotation
