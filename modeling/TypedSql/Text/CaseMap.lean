import TypedSql.Text.CaseTable

/-!
Capital and small forms of a character. One character may become several, so both functions give
a list. ASCII letters are decided by arithmetic; every other character is looked up in the table
of the Unicode character data, and a character outside the table is its own form.
-/

namespace TypedSql.Text

def CaseRun.form? (n : Nat) (run : CaseRun) : Option Nat :=
  if run.first ≤ n ∧ n ≤ run.last ∧ (n - run.first) % run.stride = 0 then
    some (run.target + (n - run.first))
  else none

/-- The table form of a code point: its own expansion, else the run that has it, else itself. -/
def caseForm (expansions : List (Nat × List Nat)) (runs : List CaseRun) (n : Nat) : List Nat :=
  match expansions.lookup n with
  | some form => form
  | none => [(runs.findSome? (CaseRun.form? n)).getD n]

def capitals (c : Char) : List Char :=
  if c.toNat < 128 then [c.toUpper]
  else (caseForm upperExpansions upperRuns c.toNat).map Char.ofNat

def smalls (c : Char) : List Char :=
  if c.toNat < 128 then [c.toLower]
  else (caseForm lowerExpansions lowerRuns c.toNat).map Char.ofNat

def upperCase (text : String) : String :=
  String.ofList (text.toList.flatMap capitals)

theorem capitals_ascii {c : Char} (h : c.toNat < 128) : capitals c = [c.toUpper] := by
  simp [capitals, h]

theorem smalls_ascii {c : Char} (h : c.toNat < 128) : smalls c = [c.toLower] := by
  simp [smalls, h]

end TypedSql.Text
