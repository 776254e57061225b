/-!
Declarations of TypeScript object types.
-/

namespace TypedSql.Script

structure Field where
  name : String
  type : String
deriving DecidableEq

structure TypeDeclaration where
  name : String
  exported : Bool
  fields : List Field
deriving DecidableEq

end TypedSql.Script
