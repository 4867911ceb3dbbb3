import TypeAnnotation.Command.Invocation

/-! # Paths

What there is under a path, seen from a directory whose files are known.
-/
namespace TypeAnnotation.Command

/-- The parts of a path between slashes. Points and empty parts lead nowhere. -/
def pathParts (path : String) : List String :=
  (path.splitOn "/").filter fun part => part != "" && part != "."

/-- What there is under a path, given all files below the directory with their texts. Nothing is
known to be outside of it but the directories around it. -/
def entryIn (files : List (String × String)) (path : String) : Entry :=
  let parts := pathParts path
  let isAround (file : String) : Bool :=
    let fileParts := pathParts file
    parts.isPrefixOf fileParts && parts.length < fileParts.length
  if path = "" then .missing
  else if parts.all (· == "..") then .directory
  else if path.startsWith "/" then .missing
  else if files.any fun (file, _) => isAround file then .directory
  else if path.endsWith "/" || path.endsWith "/." then .missing
  else
    match files.find? fun (file, _) => pathParts file = parts with
    | some (_, text) => .file text
    | none => .missing

end TypeAnnotation.Command
