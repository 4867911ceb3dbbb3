import TypeAnnotation.Command.Outcome
import TypeAnnotation.Name

/-! # Listing the builtin kinds

Each kind is listed with its other spellings.
-/
namespace TypeAnnotation.Command

def kindTable : Layout.Table String where
  title := "Builtin kinds"
  columns := [
    { header := "Kind", cells := Kind.all.map Kind.name },
    { header := "Synonyms", cells := Kind.all.map fun k => ", ".intercalate (Name.spellings k) }]

def kinds : Report := ⟨[.table .stdout kindTable], .success⟩

end TypeAnnotation.Command
