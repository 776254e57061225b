import TypedSql.Digest.Sha256
import TypedSql.Options
import TypedSql.Query

/-!
Everything that one run of the generator reads, and the files that it makes of it.
-/

namespace TypedSql

structure TypeOverride where
  sqlType : String
  codeType : String
deriving DecidableEq

structure Request where
  sqlcVersion : String := ""
  pluginDigest : String := ""
  options : Options := {}
  overrides : List TypeOverride := []
  catalog : Catalog := {}
  queries : List Query := []
deriving DecidableEq

structure GeneratedFile where
  name : String
  contents : String
deriving DecidableEq

namespace GeneratedFile

def bytes (file : GeneratedFile) : Bytes :=
  Utf8.encode file.contents

def digest (file : GeneratedFile) : String :=
  Sha256.hexDigest file.bytes

end GeneratedFile

end TypedSql
