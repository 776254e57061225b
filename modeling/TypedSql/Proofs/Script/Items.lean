import TypedSql.Proofs.Script.Layout

/-!
The generated files as lists of items: imports, constants, types and functions at the top level.
Every item has a text that begins with its keyword and its name, and a file is its banner, an empty
line, and the texts of its items. So the items tell what a file imports and declares.
-/

namespace TypedSql.Script

inductive Item where
  -- An import of classes. A class is a value and a type.
  | classes (names : List String) (source : String)
  | importedTypes (names : List String) (source : String)
  | constant (name value : String)
  | type (exported : Bool) (name definition : String)
  | function (exported : Bool) (name definition : String)
  | emptyLine
deriving DecidableEq

namespace Item

def importText (names : List String) (source : String) : String :=
  "import \x7b " ++ String.intercalate ", " names ++ " \x7d from \"" ++ source ++ "\"\n"

def exportText (exported : Bool) : String :=
  if exported then "export " else ""

def text : Item → String
  | classes names source => importText names source
  | importedTypes names source => importText names source
  | constant name value => "const " ++ name ++ " = " ++ value
  | type exported name definition => exportText exported ++ "type " ++ name ++ definition
  | function exported name definition => exportText exported ++ "function " ++ name ++ definition
  | emptyLine => "\n"

def values : Item → List String
  | classes names _ => names
  | constant name _ => [name]
  | function _ name _ => [name]
  | _ => []

def types : Item → List String
  | classes names _ => names
  | importedTypes names _ => names
  | type _ name _ => [name]
  | _ => []

def exportedTypes : Item → List String
  | type true name _ => [name]
  | _ => []

def importsFrom (file : String) : Item → List String
  | importedTypes names source => if source = file then names else []
  | _ => []

def functions : Item → List String
  | function _ name _ => [name]
  | _ => []

end Item

def fileText (banner : String) (items : List Item) : String :=
  banner ++ "\n" ++ String.join (items.map Item.text)

def TypeDeclaration.item (declaration : TypeDeclaration) : Item :=
  .type declaration.exported declaration.name
    (" = \x7b\n" ++
      String.join (declaration.fields.map fun field =>
        "  " ++ field.name ++ ": " ++ field.type ++ ";\n") ++
      "\x7d;\n\n")

def modelItems (catalog : Catalog) (types : TypeTable) : List Item :=
  (models catalog types).map TypeDeclaration.item

def classNames : List String :=
  ["D1Database", "D1PreparedStatement", "D1Result"]

def importItems (options : Options) (models : List String) : List Item :=
  (if options.workersTypesV3 then [] else [.classes classNames options.package]) ++
  (if models = [] then [] else [.importedTypes models "./models"])

def queryItem : Item :=
  .type false "Query"
    ("<T> = \x7b\n" ++
      "  then(onFulfilled?: (value: T) => void, onRejected?: (reason?: any) => void): void;\n" ++
      "  batch(): D1PreparedStatement;\n" ++
      "\x7d\n")

def headerItems (options : Options) (models : List String) : List Item :=
  let imports := importItems options models
  imports ++ (if imports = [] then [] else [.emptyLine]) ++ [queryItem, .emptyLine]

def constantItem (binding : Binding) : Item :=
  .constant binding.constantName
    ("`-- name: " ++ binding.query.name ++ " " ++ binding.query.command.keyword ++ "\n" ++
      templateBody binding.text ++ "`;\n\n")

/-- The item of a query's function. Its text behind the name begins with the parenthesis that opens
the parameters, and goes on with all lines below that one. -/
def functionItem (options : Options) (binding : Binding) : Item :=
  .function true binding.functionName
    ("(\n" ++ String.join (Step.pieces 1 ((functionLines options binding).drop 2)))

def sectionItems (options : Options) (binding : Binding) : List Item :=
  constantItem binding :: (declarations binding.signature).map TypeDeclaration.item ++
    [functionItem options binding]

def helperItem : Item :=
  .function false "expandedParam"
    ("(n: number, len: number, last: number): string \x7b\n" ++
      "  const params: number[] = [n];\n" ++
      "  for (let i = 1; i < len; i++) \x7b\n" ++
      "    params.push(last + i);\n" ++
      "  \x7d\n" ++
      "  return \"(\" + params.map((x: number) => \"?\" + x).join(\", \") + \")\";\n" ++
      "\x7d\n")

def footerItems (bindings : List Binding) : List Item :=
  if bindings.any fun binding => binding.slices.isSome then [helperItem] else []

def querierItems (options : Options) (bindings : List Binding) : List Item :=
  headerItems options (usedModels bindings) ++ bindings.flatMap (sectionItems options) ++
    footerItems bindings

section Texts

open Step

theorem TypeDeclaration.render_steps (declaration : TypeDeclaration) :
    render declaration.steps = declaration.item.text := by
  have hbalanced := Balanced.lines
    (fun field : Field => field.name ++ ": " ++ field.type ++ ";") declaration.fields
  have hfields : pieces 1 (declaration.fields.map fun field =>
      .line (field.name ++ ": " ++ field.type ++ ";")) =
      declaration.fields.map fun field => "  " ++ field.name ++ ": " ++ field.type ++ ";\n" := by
    induction declaration.fields with
    | nil => rfl
    | cons field fields ih =>
        rw [List.map_cons, List.map_cons, pieces, ih]
        simp only [String.append_assoc]
        rfl
  rw [TypeDeclaration.steps, hbalanced.block.render_append, render, hbalanced.pieces_block, hfields,
    TypeDeclaration.item, Item.text, Item.exportText, ← String.toList_inj]
  cases declaration.exported with
  | false => simp [margin, blank]
  | true => simp [margin, blank]

theorem modelsText_eq (catalog : Catalog) (types : TypeTable) (banner : String) :
    modelsText catalog types banner = fileText banner (modelItems catalog types) := by
  have hmodels : render ((models catalog types).flatMap TypeDeclaration.steps) =
      String.join ((modelItems catalog types).map Item.text) := by
    rw [render_flatMap fun declaration _ => declaration.balanced_steps, modelItems, List.map_map]
    simp only [TypeDeclaration.render_steps]
    rfl
  rw [modelsText, render_verbatim, blank, render_verbatim, hmodels, fileText, String.append_assoc]

theorem render_constant (binding : Binding) :
    render (constant binding) = (constantItem binding).text := by
  rw [constant, render_verbatim, blank, render_verbatim, constantItem, Item.text,
    ← String.toList_inj]
  simp

theorem render_functionLines (options : Options) (binding : Binding) :
    render (functionLines options binding) = (functionItem options binding).text := by
  change String.join (("" ++ ("export function " ++ binding.functionName ++ "(") ++ "\n") ::
    pieces 1 ((functionLines options binding).drop 2)) = _
  rw [String.join_cons, functionItem, Item.text, Item.exportText, if_pos rfl, ← String.toList_inj]
  simp

theorem render_sectionLines (options : Options) (binding : Binding) :
    render (sectionLines options binding) =
      String.join ((sectionItems options binding).map Item.text) := by
  have htypes : ∀ declaration ∈ declarations binding.signature, Balanced declaration.steps :=
    fun declaration _ => declaration.balanced_steps
  have hfirst := (balanced_constant binding).append (Balanced.flatMap htypes)
  rw [sectionLines, hfirst.render_append, (balanced_constant binding).render_append,
    render_flatMap htypes, render_constant, render_functionLines]
  simp [sectionItems, TypeDeclaration.render_steps, Function.comp_def, String.append_assoc]

theorem queryItem_text : queryItem.text = queryType := by decide +kernel

theorem helperItem_text : helperItem.text = expandedParam := by decide +kernel

theorem render_header (options : Options) (models : List String) (banner : String) :
    render (header options models banner) = fileText banner (headerItems options models) := by
  have hclasses : String.intercalate ", " classNames =
      "D1Database, D1PreparedStatement, D1Result" := by
    decide +kernel
  rw [← String.toList_inj]
  unfold header headerItems imports importItems
  cases options.workersTypesV3 with
  | false =>
      by_cases hmodels : models = []
      · simp [hmodels, fileText, blank, Item.text, Item.importText, hclasses, ← queryItem_text]
      · simp [hmodels, fileText, blank, Item.text, Item.importText, hclasses, ← queryItem_text]
  | true =>
      by_cases hmodels : models = []
      · simp [hmodels, fileText, blank, Item.text, ← queryItem_text]
      · simp [hmodels, fileText, blank, Item.text, Item.importText, ← queryItem_text]

theorem render_footer (bindings : List Binding) :
    render (footer bindings) = String.join ((footerItems bindings).map Item.text) := by
  unfold footer footerItems
  split
  · simp [helperItem_text]
  · rfl

theorem balanced_header (options : Options) (models : List String) (banner : String) :
    Balanced (header options models banner) := by
  have hlines : Balanced ((imports options models).map .line) := Balanced.lines id _
  have hgap : Balanced (if imports options models = [] then [] else [blank]) := by
    split
    · exact .nil
    · exact balanced_verbatim.mpr .nil
  have hfirst : Balanced [.verbatim banner, blank] := fun _ => rfl
  have hlast : Balanced [.verbatim queryType, blank] := fun _ => rfl
  exact ((hfirst.append hlines).append hgap).append hlast

/-- Every part leads back to the depth of the file, so the parts have texts of their own. -/
theorem querierText_eq_parts (bindings : List Binding) (options : Options) (banner : String) :
    querierText bindings options banner =
      render (header options (usedModels bindings) banner) ++
        String.join (bindings.map fun binding => render (sectionLines options binding)) ++
        render (footer bindings) := by
  have hsections : ∀ binding ∈ bindings, Balanced (sectionLines options binding) :=
    fun binding _ => balanced_sectionLines options binding
  have hheader := balanced_header options (usedModels bindings) banner
  rw [querierText, (hheader.append (Balanced.flatMap hsections)).render_append,
    hheader.render_append, render_flatMap hsections]

theorem querierText_eq (bindings : List Binding) (options : Options) (banner : String) :
    querierText bindings options banner = fileText banner (querierItems options bindings) := by
  rw [querierText_eq_parts, render_header, render_footer, ← String.toList_inj]
  simp [render_sectionLines, fileText, querierItems, String.toList_join, List.map_flatMap,
    List.flatMap_map, List.flatMap_assoc]

end Texts

section Reading

variable {α : Type} {f : Item → List α}

/-- What is read off a file's imports, query type, sections and helper, one after the other. -/
theorem flatMap_querierItems (hempty : f .emptyLine = []) (options : Options)
    (bindings : List Binding) :
    (querierItems options bindings).flatMap f =
      (if options.workersTypesV3 then [] else f (.classes classNames options.package)) ++
      (if usedModels bindings = [] then []
        else f (.importedTypes (usedModels bindings) "./models")) ++
      f queryItem ++ bindings.flatMap (fun binding => (sectionItems options binding).flatMap f) ++
      (if bindings.any fun binding => binding.slices.isSome then f helperItem else []) := by
  have hgap : ∀ items : List Item,
      (if items = [] then [] else [Item.emptyLine]).flatMap f = [] := by
    intro items
    split
    · rfl
    · rw [List.flatMap_cons, hempty]
      rfl
  have hheader : (headerItems options (usedModels bindings)).flatMap f =
      (importItems options (usedModels bindings)).flatMap f ++ f queryItem := by
    rw [headerItems, List.flatMap_append, List.flatMap_append, hgap]
    simp [hempty]
  rw [querierItems, List.flatMap_append, List.flatMap_append, List.flatMap_assoc, hheader,
    importItems, List.flatMap_append, footerItems, apply_ite (List.flatMap f),
    apply_ite (List.flatMap f), apply_ite (List.flatMap f)]
  simp

/-- What is read off the constant, the types and the function of a section. -/
theorem flatMap_sectionItems (options : Options) (binding : Binding) :
    (sectionItems options binding).flatMap f =
      f (constantItem binding) ++
        (declarations binding.signature).flatMap (fun declaration => f declaration.item) ++
        f (functionItem options binding) := by
  rw [sectionItems, List.cons_append, List.flatMap_cons, List.flatMap_append, List.flatMap_map]
  simp

end Reading

end TypedSql.Script
