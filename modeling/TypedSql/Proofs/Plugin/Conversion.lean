import Mathlib.Data.List.TakeWhile
import TypedSql.Plugin.Exchange
import TypedSql.Proofs.Generate.Outcome
import TypedSql.Proofs.Traversal

/-!
Which messages stand for a request, and for which one. A message is matched with a request part by
part; every part of the request is determined by the part of the message that it stands for, so the
conversion of a message is the one request that it matches. Only three things can be wrong with a
message: its options, the command of a query, and the number of a parameter.
-/

namespace TypedSql.Text

/-- A text is what trimming leaves of it, with blanks around. -/
theorem exists_blanks_trimChars (text : List Char) :
    ∃ before after, (∀ c ∈ before, isBlank c = true) ∧ (∀ c ∈ after, isBlank c = true) ∧
      text = before ++ (trimChars text ++ after) := by
  refine ⟨text.takeWhile isBlank, ((text.dropWhile isBlank).reverse.takeWhile isBlank).reverse,
    fun c => List.mem_takeWhile_imp,
    fun c hc => List.mem_takeWhile_imp (List.mem_reverse.mp hc), ?_⟩
  rw [trimChars, ← List.reverse_append, List.takeWhile_append_dropWhile, List.reverse_reverse,
    List.takeWhile_append_dropWhile]

/-- Trimming ends where a character is no blank. -/
theorem trimChars_append {before middle after : List Char}
    (hbefore : ∀ c ∈ before, isBlank c = true)
    (hafter : ∀ c ∈ after, isBlank c = true) (hne : middle ≠ [])
    (hhead : middle.head?.any isBlank = false) (hlast : middle.getLast?.any isBlank = false) :
    trimChars (before ++ (middle ++ after)) = middle := by
  have hfront {blanks rest : List Char} (hblanks : ∀ c ∈ blanks, isBlank c = true)
      (hrest : rest ≠ []) (hc : rest.head?.any isBlank = false) :
      (blanks ++ rest).dropWhile isBlank = rest := by
    obtain ⟨c, tail, rfl⟩ := List.exists_cons_of_ne_nil hrest
    rw [List.dropWhile_append_of_pos hblanks, List.dropWhile_cons_of_neg (by simpa using hc)]
  have hmiddle : (middle ++ after).reverse.dropWhile isBlank = middle.reverse := by
    rw [List.reverse_append]
    refine hfront (fun c hc => hafter c (List.mem_reverse.mp hc)) (by simpa using hne) ?_
    rwa [List.head?_reverse]
  rw [trimChars, hfront hbefore (by simp [hne]) (by
    rwa [List.head?_append_of_ne_nil _ hne]), hmiddle, List.reverse_reverse]

end TypedSql.Text

namespace TypedSql.Command

/-- The text is the keyword of the command, with nothing but blanks around it. -/
def Spelled (command : Command) (text : String) : Prop :=
  ∃ before after, (∀ c ∈ before, Text.isBlank c = true) ∧ (∀ c ∈ after, Text.isBlank c = true) ∧
    text.toList = before ++ (command.keyword.toList ++ after)

theorem ofKeyword?_eq_some_iff {keyword : String} {command : Command} :
    ofKeyword? keyword = some command ↔ keyword = command.keyword := by
  constructor
  · intro h
    unfold ofKeyword? at h
    split_ifs at h with hexec hone hmany
    all_goals
      obtain rfl := Option.some.inj h
      assumption
  · rintro rfl
    exact ofKeyword?_keyword command

theorem read?_eq_some_iff {text : String} {command : Command} :
    read? text = some command ↔ command.Spelled text := by
  rw [read?, ofKeyword?_eq_some_iff, Text.trim, ← String.toList_inj, String.toList_ofList]
  constructor
  · intro h
    obtain ⟨before, after, hbefore, hafter, htext⟩ := Text.exists_blanks_trimChars text.toList
    exact ⟨before, after, hbefore, hafter, by rw [← h]; exact htext⟩
  · rintro ⟨before, after, hbefore, hafter, htext⟩
    rw [htext]
    apply Text.trimChars_append hbefore hafter
    all_goals cases command <;> decide +kernel

theorem read?_eq_none_iff {text : String} :
    read? text = none ↔ ∀ command : Command, ¬ command.Spelled text := by
  simp only [← read?_eq_some_iff, Option.eq_none_iff_forall_ne_some, ne_eq]

end TypedSql.Command

namespace TypedSql.Plugin

/-- The identifier of a message has this name, which is not empty, or there is no identifier. -/
def Identifier.StandsFor (identifier : Option Identifier) (named : Option TypedSql.Identifier) :
    Prop :=
  ∀ name, named = some ⟨name⟩ ↔ name ≠ "" ∧ ∃ inner, identifier = some inner ∧ inner.name = name

structure Column.StandsFor (column : Column) (converted : TypedSql.Column) : Prop where
  name : converted.name = column.name
  sqlType : converted.sqlType = column.type.elim "" Identifier.name
  notNull : converted.notNull = column.notNull
  isSlice : converted.isSlice = column.isSqlcSlice
  table : Identifier.StandsFor column.table converted.table
  embedTable : Identifier.StandsFor column.embedTable converted.embedTable

structure Table.StandsFor (table : Table) (converted : TypedSql.Table) : Prop where
  rel : converted.rel.name = table.rel.elim "" Identifier.name
  columns : List.Forall₂ Column.StandsFor table.columns converted.columns

structure Schema.StandsFor (schema : Schema) (converted : TypedSql.Schema) : Prop where
  name : converted.name = schema.name
  tables : List.Forall₂ Table.StandsFor schema.tables converted.tables

structure Override.StandsFor (override : Override) (converted : TypeOverride) : Prop where
  sqlType : converted.sqlType = override.dbType
  codeType : converted.codeType = override.codeType

structure Parameter.StandsFor (parameter : Parameter) (converted : Param) : Prop where
  number : (converted.number.toNat : Int) = parameter.number.toInt
  absent : parameter.column = none → converted.column = { name := "" }
  column : ∀ column, parameter.column = some column → column.StandsFor converted.column

structure Query.StandsFor (query : Query) (converted : TypedSql.Query) : Prop where
  name : converted.name = query.name
  command : converted.command.Spelled query.cmd
  text : converted.text = query.text
  params : List.Forall₂ Parameter.StandsFor query.params converted.params
  columns : List.Forall₂ Column.StandsFor query.columns converted.columns

/-- The options that a message sends: beside the settings, else in them, else none. -/
def Request.sentOptions (request : Request) : Bytes :=
  if request.pluginOptions ≠ [] then request.pluginOptions
  else (request.settings.bind Settings.codegen).elim [] Codegen.options

structure Request.StandsFor (request : Request) (converted : TypedSql.Request) : Prop where
  sqlcVersion : converted.sqlcVersion = request.sqlcVersion
  pluginDigest : converted.pluginDigest =
    ((request.settings.bind Settings.codegen).bind Codegen.wasm).elim "" Wasm.sha256
  options : (Options.parse request.sentOptions).result = .ok converted.options
  overrides : List.Forall₂ Override.StandsFor (request.settings.elim [] Settings.overrides)
    converted.overrides
  schemas : List.Forall₂ Schema.StandsFor (request.catalog.elim [] Catalog.schemas)
    converted.catalog.schemas
  queries : List.Forall₂ Query.StandsFor request.queries converted.queries

section Parts

theorem Identifier.named?_some (identifier : Identifier) :
    Identifier.named? (some identifier) =
      if identifier.name = "" then none else some ⟨identifier.name⟩ := by
  by_cases hname : identifier.name = "" <;> simp [Identifier.named?, Option.filter, hname]

theorem Identifier.standsFor_iff {identifier : Option Identifier}
    {named : Option TypedSql.Identifier} :
    Identifier.StandsFor identifier named ↔ Identifier.named? identifier = named := by
  have hnamed (name : String) : Identifier.named? identifier = some ⟨name⟩ ↔
      name ≠ "" ∧ ∃ inner, identifier = some inner ∧ inner.name = name := by
    cases identifier with
    | none => simp [Identifier.named?]
    | some inner =>
        rw [Identifier.named?_some]
        by_cases hname : inner.name = ""
        · simp [hname, eq_comm]
        · simp only [hname, if_false, Option.some.injEq, TypedSql.Identifier.mk.injEq,
            exists_eq_left', ne_eq]
          exact ⟨fun h => ⟨h ▸ hname, h⟩, And.right⟩
  constructor
  · intro h
    apply Option.ext
    rintro ⟨name⟩
    exact (hnamed name).trans (h name).symm
  · rintro rfl
    exact hnamed

theorem Column.standsFor_iff (column : Column) (converted : TypedSql.Column) :
    column.StandsFor converted ↔ column.toColumn = converted := by
  have htype : (column.type.map Identifier.name).getD "" = column.type.elim "" Identifier.name := by
    cases column.type <;> rfl
  constructor
  · rintro ⟨hname, hsqlType, hnotNull, hisSlice, htable, hembedTable⟩
    rw [Identifier.standsFor_iff] at htable hembedTable
    rw [toColumn, htype, htable, hembedTable, ← hname, ← hsqlType, ← hnotNull, ← hisSlice]
  · rintro rfl
    exact ⟨rfl, htype, rfl, rfl, Identifier.standsFor_iff.mpr rfl, Identifier.standsFor_iff.mpr rfl⟩

theorem Table.standsFor_iff (table : Table) (converted : TypedSql.Table) :
    table.StandsFor converted ↔ table.toTable = converted := by
  have hrel : ((Identifier.named? table.rel).getD ⟨""⟩).name =
      table.rel.elim "" Identifier.name := by
    cases table.rel with
    | none => rfl
    | some inner =>
        by_cases hname : inner.name = "" <;> simp [Identifier.named?_some, hname]
  constructor
  · rintro ⟨hname, hcolumns⟩
    rw [Traversal.forall₂_iff_map_eq Column.standsFor_iff] at hcolumns
    obtain ⟨⟨name⟩, columns⟩ := converted
    rw [← hrel] at hname
    rw [toTable, hcolumns, ← (show _ = name from hname.symm)]
  · rintro rfl
    exact ⟨hrel, (Traversal.forall₂_iff_map_eq Column.standsFor_iff).mpr rfl⟩

theorem Schema.standsFor_iff (schema : Schema) (converted : TypedSql.Schema) :
    schema.StandsFor converted ↔ schema.toSchema = converted := by
  constructor
  · rintro ⟨hname, htables⟩
    rw [Traversal.forall₂_iff_map_eq Table.standsFor_iff] at htables
    rw [toSchema, ← hname, htables]
  · rintro rfl
    exact ⟨rfl, (Traversal.forall₂_iff_map_eq Table.standsFor_iff).mpr rfl⟩

theorem Override.standsFor_iff (override : Override) (converted : TypeOverride) :
    override.StandsFor converted ↔ override.toOverride = converted := by
  constructor
  · rintro ⟨hsqlType, hcodeType⟩
    rw [toOverride, ← hsqlType, ← hcodeType]
  · rintro rfl
    exact ⟨rfl, rfl⟩

/-- A number that is not negative keeps its value. -/
theorem Parameter.toParam_eq_ok {query : String} {parameter : Parameter} {converted : Param} :
    parameter.toParam query = .ok converted ↔ parameter.StandsFor converted := by
  have hnegative : parameter.number < 0 ↔ parameter.number.toInt < 0 := Int32.lt_iff_toInt_lt
  rw [toParam]
  split
  · next h =>
      refine ⟨nofun, fun hconverted => ?_⟩
      have hnumber := hconverted.number
      have := hnegative.mp h
      omega
  · next h =>
      have hpositive : 0 ≤ parameter.number.toInt := Int.not_lt.mp (mt hnegative.mpr h)
      have hnumber : (parameter.number.toUInt32.toNat : Int) = parameter.number.toInt := by
        rw [Int32.toNat_toUInt32_of_le (Int32.le_iff_toInt_le.mpr hpositive), ← Int32.toNat_toInt,
          Int.toNat_of_nonneg hpositive]
      constructor
      · intro hconverted
        obtain rfl := Except.ok.inj hconverted
        refine ⟨hnumber, fun habsent => by rw [habsent]; rfl, fun column hcolumn => ?_⟩
        rw [Column.standsFor_iff, hcolumn]
        rfl
      · rintro ⟨hconverted, habsent, hcolumn⟩
        obtain ⟨number, converted⟩ := converted
        have hsame : parameter.number.toUInt32 = number :=
          UInt32.toNat_inj.mp (Int.ofNat_inj.mp (hnumber.trans hconverted.symm))
        cases hpresent : parameter.column with
        | none =>
            rw [hsame, ← show converted = _ from habsent hpresent]
            rfl
        | some column =>
            have hsameColumn := (Column.standsFor_iff _ _).mp (hcolumn column hpresent)
            rw [hsame, Option.map_some, Option.getD_some, hsameColumn]

theorem Parameter.toParam_eq_error {query : String} {parameter : Parameter} {cause : Cause} :
    parameter.toParam query = .error cause ↔
      parameter.number.toInt < 0 ∧ cause = .parameterNumber query parameter.number.toInt := by
  have hnegative : parameter.number < 0 ↔ parameter.number.toInt < 0 := Int32.lt_iff_toInt_lt
  rw [toParam, ← hnegative]
  split
  · next h => simp [h, eq_comm]
  · next h => simp [h]

theorem Parameter.exists_toParam_eq_ok {query : String} {parameter : Parameter} :
    (∃ converted, parameter.toParam query = .ok converted) ↔ 0 ≤ parameter.number.toInt := by
  rw [← Int.not_lt]
  constructor
  · rintro ⟨converted, hconverted⟩ hnegative
    rw [toParam_eq_error.mpr ⟨hnegative, rfl⟩] at hconverted
    cases hconverted
  · intro hpositive
    cases hresult : parameter.toParam query with
    | ok converted => exact ⟨converted, rfl⟩
    | error cause => exact absurd (toParam_eq_error.mp hresult).1 hpositive

theorem Query.toQuery_eq_ok {query : Query} {converted : TypedSql.Query} :
    query.toQuery = .ok converted ↔ query.StandsFor converted := by
  rw [toQuery]
  cases hcommand : Command.read? query.cmd with
  | none =>
      refine ⟨nofun, fun hconverted => ?_⟩
      exact absurd hconverted.command (Command.read?_eq_none_iff.mp hcommand _)
  | some command =>
      rw [Traversal.map_eq_ok]
      constructor
      · rintro ⟨params, hparams, rfl⟩
        exact ⟨rfl, Command.read?_eq_some_iff.mp hcommand, rfl,
          (Traversal.mapM_eq_ok.mp hparams).imp fun _ _ => Parameter.toParam_eq_ok.mp,
          (Traversal.forall₂_iff_map_eq Column.standsFor_iff).mpr rfl⟩
      · rintro ⟨hname, hspelled, htext, hparams, hcolumns⟩
        refine ⟨converted.params,
          Traversal.mapM_eq_ok.mpr (hparams.imp fun _ _ => Parameter.toParam_eq_ok.mpr), ?_⟩
        have hsame : command = converted.command :=
          Option.some.inj (hcommand.symm.trans (Command.read?_eq_some_iff.mpr hspelled))
        rw [(Traversal.forall₂_iff_map_eq Column.standsFor_iff).mp hcolumns, hsame, ← hname,
          ← htext]

/-- What is wrong with a query: its command is unknown, or else a number is negative. The first such
number counts. -/
inductive Query.Fault (query : Query) : Cause → Prop
  | command (hcommand : ∀ command : Command, ¬ command.Spelled query.cmd) :
      Fault query (.unknownCommand query.name query.cmd)
  | number {command : Command} {done rest : List Parameter} {parameter : Parameter}
      (hcommand : command.Spelled query.cmd) (hparams : query.params = done ++ parameter :: rest)
      (hdone : ∀ other ∈ done, 0 ≤ other.number.toInt) (hnumber : parameter.number.toInt < 0) :
      Fault query (.parameterNumber query.name parameter.number.toInt)

theorem Query.toQuery_eq_error {query : Query} {cause : Cause} :
    query.toQuery = .error cause ↔ query.Fault cause := by
  rw [toQuery]
  cases hcommand : Command.read? query.cmd with
  | none =>
      constructor
      · intro h
        obtain rfl := Except.error.inj h
        exact .command (Command.read?_eq_none_iff.mp hcommand)
      · intro h
        cases h with
        | command => rfl
        | number hspelled =>
            rw [Command.read?_eq_some_iff.mpr hspelled] at hcommand
            cases hcommand
  | some command =>
      have hspelled := Command.read?_eq_some_iff.mp hcommand
      rw [Traversal.map_eq_error, Traversal.mapM_eq_error]
      constructor
      · rintro ⟨done, parameter, rest, hparams, hdone, hfailing⟩
        obtain ⟨hnumber, rfl⟩ := Parameter.toParam_eq_error.mp hfailing
        exact .number hspelled hparams
          (fun other hother => Parameter.exists_toParam_eq_ok.mp (hdone other hother)) hnumber
      · intro h
        cases h with
        | command hnone => exact absurd hspelled (hnone command)
        | @number _ done rest parameter _ hparams hdone hnumber =>
            exact ⟨done, parameter, rest, hparams,
              fun other hother => Parameter.exists_toParam_eq_ok.mpr (hdone other hother),
              Parameter.toParam_eq_error.mpr ⟨hnumber, rfl⟩⟩

structure Query.Convertible (query : Query) : Prop where
  command : ∃ command : Command, command.Spelled query.cmd
  numbers : ∀ parameter ∈ query.params, 0 ≤ parameter.number.toInt

theorem Query.exists_toQuery_eq_ok {query : Query} :
    (∃ converted, query.toQuery = .ok converted) ↔ query.Convertible := by
  constructor
  · rintro ⟨converted, h⟩
    have hconverted := toQuery_eq_ok.mp h
    refine ⟨⟨_, hconverted.command⟩, fun parameter hparameter => ?_⟩
    obtain ⟨param, -, hparam⟩ := Traversal.exists_of_mem hconverted.params hparameter
    exact hparam.number ▸ Int.natCast_nonneg _
  · rintro ⟨⟨command, hspelled⟩, hnumbers⟩
    obtain ⟨params, hparams⟩ := Traversal.exists_mapM_eq_ok.mpr fun parameter hparameter =>
      (@Parameter.exists_toParam_eq_ok query.name _).mpr (hnumbers parameter hparameter)
    rw [toQuery, Command.read?_eq_some_iff.mpr hspelled]
    exact ⟨_, Traversal.map_eq_ok.mpr ⟨params, hparams, rfl⟩⟩

end Parts

namespace Request

variable {request : Request}

theorem codegen_eq (request : Request) :
    request.codegen = (request.settings.bind Settings.codegen).getD {} := by
  cases hsettings : request.settings <;> simp [codegen, hsettings]

theorem payload_eq (request : Request) : request.payload = request.sentOptions := by
  rw [payload, sentOptions, codegen_eq, ite_not]
  cases request.settings.bind Settings.codegen <;> rfl

/-- Settings and catalog that are not there are empty ones. -/
theorem assemble_eq (request : Request) (options : Options) (queries : List TypedSql.Query) :
    request.assemble options queries =
      { sqlcVersion := request.sqlcVersion
        pluginDigest :=
          ((request.settings.bind Settings.codegen).bind Codegen.wasm).elim "" Wasm.sha256
        options
        overrides := (request.settings.elim [] Settings.overrides).map Override.toOverride
        catalog := ⟨(request.catalog.elim [] Catalog.schemas).map Schema.toSchema⟩
        queries } := by
  rw [assemble, codegen_eq]
  congr 1
  · cases request.settings.bind Settings.codegen with
    | none => rfl
    | some codegen => cases hwasm : codegen.wasm <;> simp [hwasm]
  · cases request.settings <;> rfl
  · cases request.catalog <;> rfl

theorem toRequest_eq_ok {converted : TypedSql.Request} :
    request.toRequest.result = .ok converted ↔
      ∃ options queries, (Options.parse request.sentOptions).result = .ok options ∧
        request.queries.mapM Query.toQuery = .ok queries ∧
        request.assemble options queries = converted := by
  rw [← payload_eq, toRequest]
  refine Traced.andThen_ok.trans ?_
  simp only [Traced.during_ok]
  cases hqueries : request.queries.mapM Query.toQuery with
  | error cause =>
      constructor
      · rintro ⟨options, -, h⟩
        cases h
      · rintro ⟨options, queries, -, h, -⟩
        cases h
  | ok queries =>
      constructor
      · rintro ⟨options, hoptions, h⟩
        exact ⟨options, queries, hoptions, rfl, Except.ok.inj h⟩
      · rintro ⟨options, queries', hoptions, hsame, rfl⟩
        obtain rfl := Except.ok.inj hsame
        exact ⟨options, hoptions, rfl⟩

theorem toRequest_eq_error {failure : Failure} :
    request.toRequest.result = .error failure ↔
      (∃ inner, (Options.parse request.sentOptions).result = .error inner ∧
        failure = inner.during .parseOptions) ∨
      (∃ options, (Options.parse request.sentOptions).result = .ok options) ∧
        ∃ cause, request.queries.mapM Query.toQuery = .error cause ∧ failure = ⟨cause, []⟩ := by
  rw [← payload_eq, toRequest]
  refine Traced.andThen_error.trans ?_
  simp only [Traced.during_ok, Traced.during_error]
  refine or_congr_right ?_
  cases hqueries : request.queries.mapM Query.toQuery with
  | error cause =>
      constructor
      · rintro ⟨options, hoptions, h⟩
        exact ⟨⟨options, hoptions⟩, cause, rfl, (Except.error.inj h).symm⟩
      · rintro ⟨⟨options, hoptions⟩, cause', hsame, rfl⟩
        obtain rfl := Except.error.inj hsame
        exact ⟨options, hoptions, rfl⟩
  | ok queries =>
      constructor
      · rintro ⟨options, -, h⟩
        cases h
      · rintro ⟨-, cause, h, -⟩
        cases h

/-- The request of a message is the one that the message stands for. -/
theorem toRequest_eq_ok_iff_standsFor {converted : TypedSql.Request} :
    request.toRequest.result = .ok converted ↔ request.StandsFor converted := by
  simp only [toRequest_eq_ok, assemble_eq]
  constructor
  · rintro ⟨options, queries, hoptions, hqueries, rfl⟩
    exact ⟨rfl, rfl, hoptions, (Traversal.forall₂_iff_map_eq Override.standsFor_iff).mpr rfl,
      (Traversal.forall₂_iff_map_eq Schema.standsFor_iff).mpr rfl,
      (Traversal.mapM_eq_ok.mp hqueries).imp fun _ _ => Query.toQuery_eq_ok.mp⟩
  · rintro ⟨hversion, hdigest, hoptions, hoverrides, hschemas, hqueries⟩
    refine ⟨converted.options, converted.queries, hoptions,
      Traversal.mapM_eq_ok.mpr (hqueries.imp fun _ _ => Query.toQuery_eq_ok.mpr), ?_⟩
    rw [(Traversal.forall₂_iff_map_eq Override.standsFor_iff).mp hoverrides,
      (Traversal.forall₂_iff_map_eq Schema.standsFor_iff).mp hschemas, ← hversion, ← hdigest]

theorem exists_toRequest_eq_ok :
    (∃ converted, request.toRequest.result = .ok converted) ↔
      (∃ options, (Options.parse request.sentOptions).result = .ok options) ∧
        ∀ query ∈ request.queries, query.Convertible := by
  simp only [toRequest_eq_ok, ← Query.exists_toQuery_eq_ok, ← Traversal.exists_mapM_eq_ok]
  constructor
  · rintro ⟨converted, options, queries, hoptions, hqueries, -⟩
    exact ⟨⟨options, hoptions⟩, queries, hqueries⟩
  · rintro ⟨⟨options, hoptions⟩, queries, hqueries⟩
    exact ⟨_, options, queries, hoptions, hqueries, rfl⟩

end Request

/-- The columns of the tables of a request, and of the parameters and results of its queries. -/
def allColumns (request : TypedSql.Request) : List TypedSql.Column :=
  request.catalog.tables.flatMap TypedSql.Table.columns ++
    request.queries.flatMap fun query => query.params.map Param.column ++ query.columns

/-- No identifier of the column has an empty name. -/
def NamesTables (column : TypedSql.Column) : Prop :=
  column.table ≠ some ⟨""⟩ ∧ column.embedTable ≠ some ⟨""⟩

section Named

theorem Identifier.StandsFor.ne_empty {identifier : Option Identifier}
    {named : Option TypedSql.Identifier} (h : Identifier.StandsFor identifier named) :
    named ≠ some ⟨""⟩ :=
  fun hempty => ((h "").mp hempty).1 rfl

theorem Column.StandsFor.namesTables (column : Column) (converted : TypedSql.Column)
    (h : column.StandsFor converted) : NamesTables converted :=
  ⟨h.table.ne_empty, h.embedTable.ne_empty⟩

theorem Table.StandsFor.namesTables (table : Table) (converted : TypedSql.Table)
    (h : table.StandsFor converted) : ∀ column ∈ converted.columns, NamesTables column :=
  Traversal.forall_mem Column.StandsFor.namesTables h.columns

theorem Schema.StandsFor.namesTables (schema : Schema) (converted : TypedSql.Schema)
    (h : schema.StandsFor converted) :
    ∀ table ∈ converted.tables, ∀ column ∈ table.columns, NamesTables column :=
  Traversal.forall_mem Table.StandsFor.namesTables h.tables

theorem Parameter.StandsFor.namesTables (parameter : Parameter) (converted : Param)
    (h : parameter.StandsFor converted) : NamesTables converted.column := by
  cases hcolumn : parameter.column with
  | none =>
      rw [h.absent hcolumn]
      exact ⟨nofun, nofun⟩
  | some column => exact Column.StandsFor.namesTables column _ (h.column column hcolumn)

theorem Query.StandsFor.namesTables (query : Query) (converted : TypedSql.Query)
    (h : query.StandsFor converted) :
    ∀ column ∈ converted.params.map Param.column ++ converted.columns, NamesTables column := by
  intro column hcolumn
  rcases List.mem_append.mp hcolumn with hcolumn | hcolumn
  · obtain ⟨param, hparam, rfl⟩ := List.mem_map.mp hcolumn
    exact Traversal.forall_mem Parameter.StandsFor.namesTables h.params param hparam
  · exact Traversal.forall_mem Column.StandsFor.namesTables h.columns column hcolumn

theorem Request.StandsFor.namesTables {request : Request} {converted : TypedSql.Request}
    (h : request.StandsFor converted) : ∀ column ∈ allColumns converted, NamesTables column := by
  intro column hcolumn
  rcases List.mem_append.mp hcolumn with hcolumn | hcolumn
  · obtain ⟨table, htable, hcolumn⟩ := List.mem_flatMap.mp hcolumn
    obtain ⟨schema, hschema, htable⟩ := List.mem_flatMap.mp htable
    exact Traversal.forall_mem Schema.StandsFor.namesTables h.schemas schema hschema table htable
      column hcolumn
  · obtain ⟨query, hquery, hcolumn⟩ := List.mem_flatMap.mp hcolumn
    exact Traversal.forall_mem Query.StandsFor.namesTables h.queries query hquery column hcolumn

end Named

/-- A message is converted exactly if its options can be read, every query has a known command with
nothing but blanks around it, and no parameter has a negative number. The result is the one request
that the message stands for, part by part and in order, and in it no identifier of a column has an
empty name. Otherwise the failure is that of the options; or, if these can be read, that of the
first query with something wrong: its unknown command, or else its first negative number. -/
theorem toRequest_outcome (request : Request) :
    ((∃ converted, request.toRequest.result = .ok converted) ↔
      (∃ options, (Options.parse request.sentOptions).result = .ok options) ∧
        ∀ query ∈ request.queries, query.Convertible) ∧
    (∀ converted, request.toRequest.result = .ok converted ↔ request.StandsFor converted) ∧
    (∀ converted, request.toRequest.result = .ok converted →
      ∀ column ∈ allColumns converted, column.table ≠ some ⟨""⟩ ∧ column.embedTable ≠ some ⟨""⟩) ∧
    (∀ failure, request.toRequest.result = .error failure ↔
      (∃ inner, (Options.parse request.sentOptions).result = .error inner ∧
        failure = inner.during .parseOptions) ∨
      (∃ options, (Options.parse request.sentOptions).result = .ok options) ∧
        ∃ earlier query later, request.queries = earlier ++ query :: later ∧
          (∀ other ∈ earlier, other.Convertible) ∧ failure.activities = [] ∧
          ((failure.kind = "TSD0002" ∧ failure.cause = .unknownCommand query.name query.cmd ∧
              ∀ command : Command, ¬ command.Spelled query.cmd) ∨
            (failure.kind = "TSD0001" ∧ (∃ command : Command, command.Spelled query.cmd) ∧
              ∃ done parameter rest, query.params = done ++ parameter :: rest ∧
                (∀ other ∈ done, 0 ≤ other.number.toInt) ∧ parameter.number.toInt < 0 ∧
                failure.cause = .parameterNumber query.name parameter.number.toInt))) := by
  refine ⟨Request.exists_toRequest_eq_ok, fun converted => Request.toRequest_eq_ok_iff_standsFor,
    fun converted h => (Request.toRequest_eq_ok_iff_standsFor.mp h).namesTables, fun failure => ?_⟩
  rw [Request.toRequest_eq_error]
  refine or_congr_right (and_congr_right fun _ => ?_)
  simp only [Traversal.mapM_eq_error, Query.exists_toQuery_eq_ok, Query.toQuery_eq_error]
  constructor
  · rintro ⟨cause, ⟨earlier, query, later, hqueries, hearlier, hfault⟩, rfl⟩
    refine ⟨earlier, query, later, hqueries, hearlier, rfl, ?_⟩
    cases hfault with
    | command hnone => exact .inl ⟨rfl, rfl, hnone⟩
    | number hspelled hparams hdone hnumber =>
        exact .inr ⟨rfl, ⟨_, hspelled⟩, _, _, _, hparams, hdone, hnumber, rfl⟩
  · obtain ⟨cause, activities⟩ := failure
    rintro ⟨earlier, query, later, hqueries, hearlier, rfl, hfault⟩
    refine ⟨cause, ⟨earlier, query, later, hqueries, hearlier, ?_⟩, rfl⟩
    obtain ⟨-, rfl, hnone⟩ | ⟨-, ⟨command, hspelled⟩, done, parameter, rest, hparams, hdone,
      hnumber, rfl⟩ := hfault
    · exact .command hnone
    · exact .number hspelled hparams hdone hnumber

def songsByLength : Query where
  name := "SongsByLength"
  cmd := "\u2003:many\n"
  params := [{ number := 7 }]

def songsByGenre : Query where
  name := "SongsByGenre"
  cmd := ":one"
  params := [{ number := 0 }, { number := -2 }, { number := -1 }]

def songsCopied : Query where
  name := "SongsCopied"
  cmd := ":copyfrom"
  params := [{ number := -1 }]

/-- A message that can be converted, and the same with two more queries in either order. -/
theorem toRequest_outcome_songQueries :
    (∃ converted, ({ queries := [songsByLength] } : Request).toRequest.result = .ok converted ∧
      ∀ column ∈ allColumns converted, column.table ≠ some ⟨""⟩ ∧ column.embedTable ≠ some ⟨""⟩) ∧
    ({ queries := [songsByLength, songsByGenre, songsCopied] } : Request).toRequest.result =
      .error ⟨.parameterNumber "SongsByGenre" (-2), []⟩ ∧
    ({ queries := [songsByLength, songsCopied, songsByGenre] } : Request).toRequest.result =
      .error ⟨.unknownCommand "SongsCopied" ":copyfrom", []⟩ := by
  have hconvertible : songsByLength.Convertible :=
    ⟨⟨.many, ['\u2003'], ['\n'], List.forall_mem_singleton.mpr (by decide +kernel),
      List.forall_mem_singleton.mpr (by decide +kernel), by decide +kernel⟩, by decide⟩
  have hearlier : ∀ other ∈ [songsByLength], other.Convertible :=
    List.forall_mem_singleton.mpr hconvertible
  refine ⟨?_, ?_, ?_⟩
  · obtain ⟨haccepts, -, hnames, -⟩ := toRequest_outcome { queries := [songsByLength] }
    obtain ⟨converted, h⟩ := haccepts.mpr ⟨⟨{}, rfl⟩, hearlier⟩
    exact ⟨converted, h, hnames converted h⟩
  · obtain ⟨-, -, -, hfails⟩ :=
      toRequest_outcome { queries := [songsByLength, songsByGenre, songsCopied] }
    exact (hfails _).mpr (.inr ⟨⟨{}, rfl⟩, [songsByLength], songsByGenre, [songsCopied], rfl,
      hearlier, rfl, .inr ⟨rfl, ⟨.one, [], [], nofun, nofun, rfl⟩, [{ number := 0 }],
        { number := -2 }, [{ number := -1 }], rfl, by decide, by decide, by decide⟩⟩)
  · obtain ⟨-, -, -, hfails⟩ :=
      toRequest_outcome { queries := [songsByLength, songsCopied, songsByGenre] }
    have hunknown : Command.read? ":copyfrom" = none := by decide +kernel
    exact (hfails _).mpr (.inr ⟨⟨{}, rfl⟩, [songsByLength], songsCopied, [songsByGenre], rfl,
      hearlier, rfl, .inl ⟨rfl, rfl, Command.read?_eq_none_iff.mp hunknown⟩⟩)

end TypedSql.Plugin
