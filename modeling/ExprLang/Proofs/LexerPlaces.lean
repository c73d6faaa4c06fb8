import ExprLang.Proofs.Places
import ExprLang.Proofs.Scanning

/-! Where a lexer stands while it is called for items again and again: always at a place
of its text, and behind all words that it has named. -/
namespace ExprLang
open String (utf8Len)

def LexItem.position : LexItem → Position
  | .ok item => item.position
  | .error fault => fault.position

/-- Whether the token stands in the text at its place, and its word ends no later than
at the offset. -/
def Spanned.EndsBy (source : String) (offset : Nat) (word : Spanned) : Prop :=
  ∃ before spelling behind, source.toList = before ++ (spelling ++ behind) ∧
    word.position.offset = utf8Len before ∧ word.token.Heads spelling behind ∧
    word.position.offset + utf8Len spelling ≤ offset

theorem Spanned.EndsBy.lt {source : String} {offset : Nat} {word : Spanned}
    (ends : word.EndsBy source offset) : word.position.offset < offset := by
  obtain ⟨_, spelling, _, _, _, heads, within⟩ := ends
  obtain ⟨first, others, rfl, _⟩ := sort_of_matches _ _ heads.spelled.1
  have long : 0 < utf8Len (first :: others) := by
    rw [String.utf8Len_cons]
    have size := first.utf8Size_pos
    omega
  omega

private theorem Spanned.EndsBy.mono {source : String} {early late : Nat} {word : Spanned}
    (ends : word.EndsBy source early) (below : early ≤ late) : word.EndsBy source late := by
  obtain ⟨before, spelling, behind, split, place, heads, within⟩ := ends
  exact ⟨before, spelling, behind, split, place, heads, Nat.le_trans within below⟩

namespace Lexer

def StandsIn (source : String) (lexer : Lexer) : Prop :=
  ∃ read, source.toList = read ++ lexer.rest ∧ lexer.cursor = Position.start.after read

theorem standsIn_ofString (source : String) : (ofString source).StandsIn source := ⟨[], rfl, rfl⟩

private theorem StandsIn.locates {source : String} {lexer : Lexer} (stands : lexer.StandsIn source) :
    lexer.cursor.Locates source := by
  obtain ⟨read, split, cursor⟩ := stands
  rw [cursor]
  exact Position.locates_after source read lexer.rest split

private theorem StandsIn.pass {source own : String} {text rest : List Char} {cursor : Position}
    {finished : Bool} (stands : (Lexer.mk own (text ++ rest) cursor finished).StandsIn source)
    (ends : Bool) : (Lexer.mk own rest (cursor.after text) ends).StandsIn source := by
  obtain ⟨read, split, place⟩ := stands
  refine ⟨read ++ text, by rw [split, List.append_assoc], ?_⟩
  rw [Position.after_append, ← place]

theorem Passes.standsIn {source : String} {lexer after : Lexer} {item : LexItem}
    (passes : lexer.Passes item after) (stands : lexer.StandsIn source) :
    after.StandsIn source ∧ item.position.Locates source := by
  cases passes with
  | word own blanks spelling behind cursor token blank heads =>
    have atWord := stands.pass false
    exact ⟨atWord.pass false, atWord.locates⟩
  | finish own blanks cursor blank =>
    rw [← List.append_nil blanks] at stands
    have atEnd := stands.pass true
    exact ⟨atEnd, atEnd.locates⟩
  | refusal own blanks text cursor fault blank place refuses =>
    have atFault := stands.pass true
    refine ⟨atFault, ?_⟩
    rw [LexItem.position, place]
    exact atFault.locates

theorem StandsIn.position_locates {source : String} {lexer : Lexer} (stands : lexer.StandsIn source)
    (whole : lexer.finished = true → lexer.rest = []) : lexer.position.Locates source := by
  unfold position
  split
  · rename_i finished
    rw [whole finished]
    exact stands.locates
  · exact stands.locates

theorem Passes.whole {lexer after : Lexer} {word : Spanned} (passes : lexer.Passes (.ok word) after) :
    after.finished = true → after.rest = [] := by
  cases passes with
  | word => nofun
  | finish => exact fun _ => rfl

theorem Passes.advances {lexer after : Lexer} {item : LexItem} (passes : lexer.Passes item after) :
    lexer.cursor.offset ≤ item.position.offset ∧ item.position.offset ≤ after.cursor.offset := by
  cases passes with
  | word own blanks spelling behind cursor token blank heads =>
    simp only [LexItem.position, Position.offset_after]
    omega
  | finish own blanks cursor blank =>
    simp only [LexItem.position, Position.offset_after]
    omega
  | refusal own blanks text cursor fault blank place refuses =>
    simp only [LexItem.position, place, Position.offset_after]
    omega

private theorem Passes.endsBy {source : String} {lexer after : Lexer} {word : Spanned}
    (passes : lexer.Passes (.ok word) after) (stands : lexer.StandsIn source)
    (running : after.finished = false) : word.EndsBy source after.cursor.offset := by
  cases passes with
  | finish => contradiction
  | word own blanks spelling behind cursor token blank heads =>
    obtain ⟨read, split, place⟩ := stands.pass false
    have start : (cursor.after blanks).offset = utf8Len read := by
      change cursor.after blanks = Position.start.after read at place
      rw [place, Position.offset_after, Position.start, Nat.zero_add]
    exact ⟨read, spelling, behind, split, start, heads, Nat.le_of_eq (Position.offset_after _ _).symm⟩

def afterCalls (lexer : Lexer) (calls : Nat) : Lexer := (fun lexer => lexer.next.2)^[calls] lexer

def answer (lexer : Lexer) (calls : Nat) : Option LexItem := (lexer.afterCalls calls).next.1

theorem afterCalls_succ (lexer : Lexer) (calls : Nat) :
    lexer.afterCalls (calls + 1) = (lexer.afterCalls calls).next.2 :=
  Function.iterate_succ_apply' _ _ _

theorem next_answer (lexer : Lexer) (calls : Nat) (item : LexItem)
    (answered : lexer.answer calls = some item) :
    (lexer.afterCalls calls).Passes item (lexer.afterCalls (calls + 1)) := by
  rw [afterCalls_succ]
  exact next_passes _ _ item (Prod.ext answered rfl)

theorem answer_none (lexer : Lexer) (calls : Nat) (answered : lexer.answer calls = none) :
    lexer.afterCalls (calls + 1) = lexer.afterCalls calls := by
  rw [afterCalls_succ]
  exact (next_none _ _ (Prod.ext answered rfl)).2

theorem standsIn_afterCalls (source : String) (lexer : Lexer) (stands : lexer.StandsIn source)
    (calls : Nat) : (lexer.afterCalls calls).StandsIn source := by
  induction calls with
  | zero => exact stands
  | succ calls ih =>
    cases answered : lexer.answer calls with
    | none => rw [answer_none lexer calls answered]; exact ih
    | some item => exact ((next_answer lexer calls item answered).standsIn ih).1

private theorem offset_afterCalls (lexer : Lexer) (early late : Nat) (order : early ≤ late) :
    (lexer.afterCalls early).cursor.offset ≤ (lexer.afterCalls late).cursor.offset := by
  induction order with
  | refl => exact Nat.le_refl _
  | @step late _ ih =>
    cases answered : lexer.answer late with
    | none => rw [answer_none lexer late answered]; exact ih
    | some item =>
      have passes := (next_answer lexer late item answered).advances
      exact Nat.le_trans ih (Nat.le_trans passes.1 passes.2)

theorem finished_afterCalls (lexer : Lexer) (early late : Nat) (order : early ≤ late)
    (finished : (lexer.afterCalls early).finished = true) :
    lexer.afterCalls late = lexer.afterCalls early := by
  induction order with
  | refl => rfl
  | @step late _ ih => rw [afterCalls_succ, ih, next_of_finished _ finished]

theorem endsBy_of_answers (source : String) (lexer : Lexer) (stands : lexer.StandsIn source)
    (early late : Nat) (order : early < late) (word : Spanned) (item : LexItem)
    (first : lexer.answer early = some (.ok word)) (second : lexer.answer late = some item) :
    word.EndsBy source item.position.offset := by
  have running : (lexer.afterCalls (early + 1)).finished = false := by
    by_contra finished
    rw [Bool.not_eq_false] at finished
    rw [answer, finished_afterCalls lexer (early + 1) late order finished,
      next_of_finished _ finished] at second
    contradiction
  have ends := (next_answer lexer early _ first).endsBy (standsIn_afterCalls source lexer stands early) running
  have later := offset_afterCalls lexer (early + 1) late order
  have reaches := (next_answer lexer late item second).advances.1
  exact ends.mono (by omega)

theorem takeRest_getElem (lexer : Lexer) (calls : Nat) :
    lexer.takeRest.1[calls]? = lexer.answer calls := by
  induction calls generalizing lexer with
  | zero =>
    cases read : lexer.next with
    | mk found after =>
      have answered : lexer.answer 0 = found := congrArg Prod.fst read
      cases found with
      | none => rw [takeRest_none lexer after read, answered]; rfl
      | some item => rw [takeRest_some lexer after item read, answered]; rfl
  | succ calls ih =>
    cases read : lexer.next with
    | mk found after =>
      have answered : lexer.answer (calls + 1) = after.answer calls := by
        rw [answer, afterCalls, Function.iterate_succ_apply, read]
        rfl
      rw [answered, ← ih after]
      cases found with
      | none =>
        obtain ⟨finished, same⟩ := next_none lexer after read
        rw [same, takeRest_none lexer after read]
        rfl
      | some item => rw [takeRest_some lexer after item read]; rfl

end Lexer

end ExprLang
