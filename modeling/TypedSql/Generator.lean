/-!
Names that the generator shares with the programs around it: its own name and version, the method
that the SQL compiler calls, the files that it writes, and the package that they import.
-/

namespace TypedSql.Generator

def name : String := "sqlc-gen-ts-d1"

def version : String := "0.3.0"

/-- The revision of a build that was not told its own. -/
def revision : String := "HEAD"

/-- The method that the SQL compiler calls on a plugin. -/
def generateMethod : String := "/plugin.CodegenService/Generate"

def modelsFile : String := "models.ts"

def querierFile : String := "querier.ts"

def workersTypesPackage : String := "@cloudflare/workers-types"

def defaultWorkersTypes : String := "2022-11-30"

/-- The TypeScript type of a database type that has no other. -/
def fallbackType : String := "number | string"

end TypedSql.Generator
