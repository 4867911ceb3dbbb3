/-! # Documents

Trees of plain data, the form in which descriptors are written down. A mapping keeps its entries
in order.
-/
namespace TypeAnnotation

inductive Document
  | null
  | bool (value : Bool)
  | string (value : String)
  | list (items : List Document)
  | mapping (entries : List (String × Document))
deriving Repr, Inhabited

end TypeAnnotation
