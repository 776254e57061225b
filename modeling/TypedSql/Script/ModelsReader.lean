import TypedSql.Script.Declaration
import TypedSql.Text.Search

/-!
A reader for the file of model types. It looks at lines only: the line that opens a type, a line for
every property, the line that closes the type, and an empty line. A property's name ends at the
first colon, and its type is all that stands before the last semicolon.
-/

namespace TypedSql.Script

/-- What precedes some characters at the end of others. -/
def before? (back text : List Char) : Option (List Char) :=
  (Text.after? back.reverse text.reverse).map List.reverse

def readField? (line : List Char) : Option Field := do
  let line ← Text.after? [' ', ' '] line
  let name := line.takeWhile (· != ':')
  let type ← Text.after? [':', ' '] (line.dropWhile (· != ':'))
  let type ← before? [';'] type
  return ⟨String.ofList name, String.ofList type⟩

def readOpening? (line : List Char) : Option String := do
  let name ← Text.after? "export type ".toList line
  let name ← before? " = \x7b".toList name
  return String.ofList name

/-- The properties of a type, and the lines after the one that closes it. -/
def readFields? : List (List Char) → Option (List Field × List (List Char))
  | [] => none
  | line :: rest =>
    if line = ['\x7d', ';'] then some ([], rest)
    else do
      let field ← readField? line
      let (fields, rest) ← readFields? rest
      return (field :: fields, rest)

theorem length_of_readFields? {lines rest : List (List Char)} {fields : List Field}
    (h : readFields? lines = some (fields, rest)) : rest.length < lines.length := by
  induction lines generalizing fields with
  | nil => simp [readFields?] at h
  | cons line more ih =>
      rw [readFields?] at h
      split at h
      · simp only [Option.some.injEq, Prod.mk.injEq] at h
        simp [h.2]
      · simp only [bind, Option.bind_eq_some_iff, pure, Option.some.injEq, Prod.mk.injEq,
          Prod.exists] at h
        obtain ⟨_, _, _, _, found, _, rfl⟩ := h
        exact Nat.lt_succ_of_lt (ih found)

/-- Types, each with an empty line after it, up to the end of the last line. -/
def readTypes? : List (List Char) → Option (List TypeDeclaration)
  | [] => none
  | [[]] => some []
  | line :: rest =>
    match readOpening? line with
    | none => none
    | some name =>
      match h : readFields? rest with
      | some (fields, [] :: rest) =>
        have := length_of_readFields? h
        (readTypes? rest).map (⟨name, true, fields⟩ :: ·)
      | _ => none
termination_by lines => lines.length
decreasing_by simp_all; omega

/-- The types that a file declares after its banner and an empty line. -/
def readModels? (banner text : String) : Option (List TypeDeclaration) := do
  let types ← Text.after? (banner.toList ++ ['\n']) text.toList
  readTypes? (types.splitOn '\n')

example : readModels? "// b\n" "// b\n\nexport type A = \x7b\n  x: \"\x7d;\";\n\x7d;\n\n" =
    some [⟨"A", true, [⟨"x", "\"\x7d;\""⟩]⟩] := by decide +kernel

example : readModels? "// b\n" "// b\n\nexport type A = \x7b\n\x7d;\n" = none := by decide +kernel

end TypedSql.Script
