import TypeAnnotation.Yaml.Timestamp

/-! # Plain scalars

What a scalar without quotes or a tag is taken for.
-/
namespace TypeAnnotation.Yaml

inductive PlainType
  | null
  | bool
  | int
  | float
  | timestamp
  | merge
  | value
  | str
deriving DecidableEq, Repr

def standardTag (name : String) : String := "tag:yaml.org,2002:" ++ name

def PlainType.tag : PlainType → String
  | null => standardTag "null"
  | bool => standardTag "bool"
  | int => standardTag "int"
  | float => standardTag "float"
  | timestamp => standardTag "timestamp"
  | merge => standardTag "merge"
  | value => standardTag "value"
  | str => standardTag "str"

namespace Plain

def nullWords : List String := ["", "~", "null", "Null", "NULL"]

def trueWords : List String :=
  ["yes", "Yes", "YES", "true", "True", "TRUE", "on", "On", "ON"]

def falseWords : List String :=
  ["no", "No", "NO", "false", "False", "FALSE", "off", "Off", "OFF"]

def typeOf (text : String) : PlainType :=
  if nullWords.contains text then .null
  else if trueWords.contains text || falseWords.contains text then .bool
  else if Number.isFloat text.toList then .float
  else if Number.isInt text.toList then .int
  else if text = "<<" then .merge
  else if Timestamp.isTimestamp text.toList then .timestamp
  else if text = "=" then .value
  else .str

end Plain

end TypeAnnotation.Yaml
