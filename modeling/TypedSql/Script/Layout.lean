/-!
Lines with indentation. A layout is a list of steps: lines, text that is taken as it is, and changes
of the depth at which the following lines stand. Each depth is two spaces.
-/

namespace TypedSql.Script

inductive Step where
  | line (text : String)
  | verbatim (text : String)
  | indent
  | dedent
deriving DecidableEq

namespace Step

def margin (depth : Nat) : String :=
  String.ofList (List.replicate (2 * depth) ' ')

/-- The text of steps that begin at some depth. At depth zero a dedent changes nothing. -/
def pieces (depth : Nat) : List Step → List String
  | [] => []
  | .line text :: rest => (margin depth ++ text ++ "\n") :: pieces depth rest
  | .verbatim text :: rest => text :: pieces depth rest
  | .indent :: rest => pieces (depth + 1) rest
  | .dedent :: rest => pieces (depth - 1) rest

def render (steps : List Step) : String :=
  String.join (pieces 0 steps)

/-- The depth after steps, or nothing where a dedent has no indent before it. -/
def depthAfter? (depth : Nat) : List Step → Option Nat
  | [] => some depth
  | .line _ :: rest => depthAfter? depth rest
  | .verbatim _ :: rest => depthAfter? depth rest
  | .indent :: rest => depthAfter? (depth + 1) rest
  | .dedent :: rest =>
    match depth with
    | 0 => none
    | depth + 1 => depthAfter? depth rest

def blank : Step := .verbatim "\n"

def opening (text : String) : List Step := [.line text, .indent]

def closing (text : String) : List Step := [.dedent, .line text]

def block (first : String) (body : List Step) (last : String) : List Step :=
  opening first ++ (body ++ closing last)

theorem pieces_append {depth depth' : Nat} {first second : List Step}
    (h : depthAfter? depth first = some depth') :
    pieces depth (first ++ second) = pieces depth first ++ pieces depth' second := by
  induction first generalizing depth with
  | nil =>
      simp only [depthAfter?, Option.some.injEq] at h
      simp [pieces, h]
  | cons step rest ih =>
      cases step with
      | line text => simp [pieces, ih (by simpa [depthAfter?] using h)]
      | verbatim text => simp [pieces, ih (by simpa [depthAfter?] using h)]
      | indent => simp [pieces, ih (by simpa [depthAfter?] using h)]
      | dedent =>
          cases depth with
          | zero => simp [depthAfter?] at h
          | succ depth => simp [pieces, ih (by simpa [depthAfter?] using h)]

theorem depthAfter?_append (depth : Nat) (first second : List Step) :
    depthAfter? depth (first ++ second) =
      (depthAfter? depth first).bind fun depth => depthAfter? depth second := by
  induction first generalizing depth with
  | nil => simp [depthAfter?]
  | cons step rest ih =>
      cases step with
      | line text => simp [depthAfter?, ih]
      | verbatim text => simp [depthAfter?, ih]
      | indent => simp [depthAfter?, ih]
      | dedent =>
          cases depth with
          | zero => simp [depthAfter?]
          | succ depth => simp [depthAfter?, ih]

example : render (block "a \x7b" [.line "b;"] "\x7d") = "a \x7b\n  b;\n\x7d\n" := by decide +kernel

end Step

end TypedSql.Script
