import ExprLang.Position
import Mathlib.Data.List.Induction
import Mathlib.Data.String.Basic

/-! Places as a reader finds them: the bytes before a place, the lines before it, and
the characters before it on its own line. Going on from the start of a text, character
by character, leads to such places and to no others. -/
namespace ExprLang.Position
open String (utf8Len)

/-- Whether the place is where a reader of the text finds it: between two characters,
behind as many newlines as there are lines above it, and behind as many characters on
its own line as there are columns before it. -/
def Locates (place : Position) (source : String) : Prop :=
  ∃ before behind, source.toList = before ++ behind ∧ place.offset = utf8Len before ∧
    place.line = 1 + before.count '\n' ∧
    place.column = 1 + (before.reverse.takeWhile (· ≠ '\n')).length

theorem after_append (place : Position) (first second : List Char) :
    place.after (first ++ second) = (place.after first).after second :=
  List.foldl_append

theorem offset_after (place : Position) (text : List Char) :
    (place.after text).offset = place.offset + utf8Len text := by
  induction text generalizing place with
  | nil => rfl
  | cons c text ih =>
    have step : (place.advance c).offset = place.offset + c.utf8Size := by
      unfold advance
      split <;> rfl
    rw [after, List.foldl_cons, ← after, ih, step, String.utf8Len_cons]
    omega

theorem after_snoc (place : Position) (text : List Char) (c : Char) :
    place.after (text ++ [c]) = (place.after text).advance c :=
  after_append place text [c]

theorem line_start_after (text : List Char) :
    (start.after text).line = 1 + text.count '\n' ∧
      (start.after text).column = 1 + (text.reverse.takeWhile (· ≠ '\n')).length := by
  -- from the end of the text, where the last line is
  induction text using List.reverseRecOn with
  | nil => exact ⟨rfl, rfl⟩
  | append_singleton text c ih =>
    obtain ⟨line, column⟩ := ih
    rw [after_snoc, advance]
    split
    · rename_i newline
      simp [newline, line, Nat.add_assoc]
    · rename_i other
      simp [other, line, column, Nat.add_assoc]

theorem locates_after (source : String) (before behind : List Char)
    (split : source.toList = before ++ behind) : (start.after before).Locates source := by
  obtain ⟨line, column⟩ := line_start_after before
  have offset := offset_after start before
  rw [show start.offset = 0 from rfl, Nat.zero_add] at offset
  exact ⟨before, behind, split, offset, line, column⟩

theorem lt_of_offset_lt (first second : Position) (before : first.offset < second.offset) :
    first < second := by
  have inOrder : (compare first.offset second.offset).then ((compare first.line second.line).then
      ((compare first.column second.column).then .eq)) = .lt := by
    rw [Nat.compare_eq_lt.mpr before]
    rfl
  exact inOrder

end ExprLang.Position
