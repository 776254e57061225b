import Mathlib.Data.List.Perm.Basic
import TypedSql.Text.Search

/-!
Pieces that come into a text, one after the other. An insertion can be undone where its piece
stands, and a run of insertions is undone in the reverse order. Nothing but the pieces is new in the
text: it has the characters that it had, in the order that they had, and those of the pieces.
-/

namespace TypedSql.Text

variable {α : Type}

/-- A piece that comes into a text, and the position that it has there. -/
structure Insertion (α : Type) where
  position : Nat
  piece : List α
deriving DecidableEq

namespace Insertion

def make (insertion : Insertion α) (text : List α) : List α :=
  text.take insertion.position ++ (insertion.piece ++ text.drop insertion.position)

/-- The text without the piece, if the piece stands at its position. -/
def undo? [DecidableEq α] (insertion : Insertion α) (text : List α) : Option (List α) :=
  (after? insertion.piece (text.drop insertion.position)).map (text.take insertion.position ++ ·)

def makeAll (insertions : List (Insertion α)) (text : List α) : List α :=
  insertions.foldl (fun text insertion => insertion.make text) text

/-- The text without the pieces, the last one first, if each stands at its position by then. -/
def undoAll? [DecidableEq α] (insertions : List (Insertion α)) (text : List α) :
    Option (List α) :=
  insertions.reverse.foldlM (fun text insertion => insertion.undo? text) text

theorem make_append (before after piece : List α) :
    make ⟨before.length, piece⟩ (before ++ after) = before ++ (piece ++ after) := by
  simp [make]

/-- Insertions that lead from one text to another, each inside the text that the one before it
leaves. -/
def Leads : List (Insertion α) → List α → List α → Prop
  | [], text, text' => text' = text
  | insertion :: rest, text, text' =>
    insertion.position ≤ text.length ∧ Leads rest (insertion.make text) text'

section Single

variable {insertion : Insertion α} {text : List α}

theorem undo?_make [DecidableEq α] (h : insertion.position ≤ text.length) :
    insertion.undo? (insertion.make text) = some text := by
  have hlength : (text.take insertion.position).length = insertion.position :=
    List.length_take_of_le h
  have hfront : (insertion.make text).take insertion.position = text.take insertion.position :=
    List.take_left' hlength
  have hback : (insertion.make text).drop insertion.position =
      insertion.piece ++ text.drop insertion.position :=
    List.drop_left' hlength
  rw [undo?, hfront, hback, after?_append, Option.map_some, List.take_append_drop]

theorem sublist_make (insertion : Insertion α) (text : List α) :
    text.Sublist (insertion.make text) := by
  conv_lhs => rw [← List.take_append_drop insertion.position text]
  exact (List.Sublist.refl _).append (List.sublist_append_right _ _)

/-- Beside the characters of the text there are those of the piece. -/
theorem perm_make (insertion : Insertion α) (text : List α) :
    (insertion.make text).Perm (text ++ insertion.piece) := by
  conv_rhs => rw [← List.take_append_drop insertion.position text, List.append_assoc]
  exact List.perm_append_comm.append_left _

end Single

namespace Leads

variable {insertions insertions' : List (Insertion α)} {text middle text' : List α}

theorem append (h : Leads insertions text middle) (h' : Leads insertions' middle text') :
    Leads (insertions ++ insertions') text text' := by
  induction insertions generalizing text with
  | nil =>
      obtain rfl : middle = text := h
      exact h'
  | cons insertion rest ih => exact ⟨h.1, ih h.2⟩

theorem makeAll_eq (h : Leads insertions text text') : makeAll insertions text = text' := by
  induction insertions generalizing text with
  | nil => exact h.symm
  | cons insertion rest ih => exact ih h.2

/-- The run, undone: the last piece is taken out first. -/
theorem undoAll?_eq [DecidableEq α] (h : Leads insertions text text') :
    undoAll? insertions text' = some text := by
  induction insertions generalizing text with
  | nil =>
      obtain rfl : text' = text := h
      rfl
  | cons insertion rest ih =>
      have hrest : rest.reverse.foldlM (fun text insertion => insertion.undo? text) text' =
          some (insertion.make text) := ih h.2
      rw [undoAll?, List.reverse_cons, List.foldlM_append, hrest]
      change insertion.undo? (insertion.make text) >>= pure = _
      rw [undo?_make h.1]
      rfl

theorem sublist (h : Leads insertions text text') : text.Sublist text' := by
  induction insertions generalizing text with
  | nil =>
      obtain rfl : text' = text := h
      exact List.Sublist.refl text'
  | cons insertion rest ih => exact (insertion.sublist_make text).trans (ih h.2)

theorem perm (h : Leads insertions text text') :
    text'.Perm (text ++ insertions.flatMap Insertion.piece) := by
  induction insertions generalizing text with
  | nil =>
      obtain rfl : text' = text := h
      rw [List.flatMap_nil, List.append_nil]
  | cons insertion rest ih =>
      rw [List.flatMap_cons, ← List.append_assoc]
      exact (ih h.2).trans ((insertion.perm_make text).append_right _)

/-- A text stays as it is only if nothing comes into it. -/
theorem eq_iff (h : Leads insertions text text') :
    text' = text ↔ insertions.flatMap Insertion.piece = [] := by
  have hlength := h.perm.length_eq
  rw [List.length_append] at hlength
  constructor
  · rintro rfl
    exact List.eq_nil_of_length_eq_zero (by omega)
  · intro hpieces
    rw [hpieces, List.length_nil, Nat.add_zero] at hlength
    exact (h.sublist.eq_of_length hlength.symm).symm

end Leads

end Insertion

end TypedSql.Text
