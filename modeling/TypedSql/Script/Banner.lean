import TypedSql.Generator

/-!
The comment at the top of every generated file: who made it, and from which versions.
-/

namespace TypedSql.Script

/-- The banner. The digest of the plugin stands in place of its revision, where it is known. -/
def banner (sqlcVersion pluginDigest : String) : String :=
  "// Code generated by " ++ Generator.name ++ ". DO NOT EDIT.\n" ++
    "// versions:\n" ++
    "//   sqlc " ++ sqlcVersion ++ "\n" ++
    "//   " ++ Generator.name ++ " " ++ Generator.version ++ "@" ++
    (if pluginDigest = "" then Generator.revision else pluginDigest) ++ "\n"

end TypedSql.Script
