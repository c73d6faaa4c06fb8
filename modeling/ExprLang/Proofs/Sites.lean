import ExprLang.Proofs.LexerPlaces
import ExprLang.Proofs.Progress

/-! The trees inside a tree in the order in which a parser finishes them, each with the token
that it is known by. The tree fits a limit if all of them do, below the assignments and brackets
around them. -/
namespace ExprLang

/-- A tree inside another one: the number of assignments and brackets whose value or subscript it
is in, and the number of the item that it is known by. -/
structure Site where
  tree : Expr
  depth : Nat
  anchor : Nat

def Site.exceeds (limit : Nat) (site : Site) : Bool := limit < site.depth + site.tree.height

namespace Expr

/-- The token that a tree is known by: its only one, or else the one behind its first part. -/
def ownToken : Expr → Token
  | .literal value => .number value
  | .var name => .identifier name
  | .assign _ _ => .assign
  | .binary op _ _ => .operator op
  | .index _ _ => .leftBracket

/-- All trees inside a tree, each behind those inside it. The tokens of the tree are numbered
from `start` on. -/
def sites (depth start : Nat) : Expr → List Site
  | .literal value => [⟨.literal value, depth, start⟩]
  | .var name => [⟨.var name, depth, start⟩]
  | .assign target value =>
    target.sites depth start ++ value.sites (depth + 1) (start + target.tokens.length + 1) ++
      [⟨.assign target value, depth, start + target.tokens.length⟩]
  | .binary op left right =>
    left.sites depth start ++ right.sites depth (start + left.tokens.length + 1) ++
      [⟨.binary op left right, depth, start + left.tokens.length⟩]
  | .index base subscript =>
    base.sites depth start ++ subscript.sites (depth + 1) (start + base.tokens.length + 1) ++
      [⟨.index base subscript, depth, start + base.tokens.length⟩]

private theorem forall_mem_parts {holds : Site → Prop} {first second : List Site} {own : Site} :
    (∀ site ∈ first ++ second ++ [own], holds site) ↔
      (∀ site ∈ first, holds site) ∧ (∀ site ∈ second, holds site) ∧ holds own := by
  rw [List.forall_mem_append, List.forall_mem_append, List.forall_mem_singleton, and_assoc]

private theorem mem_sites (tree : Expr) (depth start : Nat) :
    ∃ anchor, (⟨tree, depth, anchor⟩ : Site) ∈ tree.sites depth start := by
  cases tree with
  | literal value => exact ⟨start, List.mem_singleton.mpr rfl⟩
  | var name => exact ⟨start, List.mem_singleton.mpr rfl⟩
  | _ => exact ⟨_, List.mem_append_right _ (List.mem_singleton.mpr rfl)⟩

private theorem sites_within (tree : Expr) (depth start : Nat) :
    ∀ site ∈ tree.sites depth start, site.depth + site.tree.height ≤ depth + tree.height := by
  induction tree generalizing depth start with
  | literal value => exact List.forall_mem_singleton.mpr (Nat.le_refl _)
  | var name => exact List.forall_mem_singleton.mpr (Nat.le_refl _)
  | assign target value inTarget inValue =>
    have before : depth + target.height ≤ depth + (assign target value).height := by
      rw [height]
      omega
    have behind : depth + 1 + value.height ≤ depth + (assign target value).height := by
      rw [height]
      omega
    exact forall_mem_parts.mpr ⟨fun site member => (inTarget _ _ site member).trans before,
      fun site member => (inValue _ _ site member).trans behind, Nat.le_refl _⟩
  | binary op left right inLeft inRight =>
    have before : depth + left.height ≤ depth + (binary op left right).height := by
      rw [height]
      omega
    have behind : depth + right.height ≤ depth + (binary op left right).height := by
      rw [height]
      omega
    exact forall_mem_parts.mpr ⟨fun site member => (inLeft _ _ site member).trans before,
      fun site member => (inRight _ _ site member).trans behind, Nat.le_refl _⟩
  | index base subscript inBase inSubscript =>
    have before : depth + base.height ≤ depth + (index base subscript).height := by
      rw [height]
      omega
    have inside : depth + 1 + subscript.height ≤ depth + (index base subscript).height := by
      rw [height]
      omega
    exact forall_mem_parts.mpr ⟨fun site member => (inBase _ _ site member).trans before,
      fun site member => (inSubscript _ _ site member).trans inside, Nat.le_refl _⟩

theorem find_exceeds_eq_none_iff (tree : Expr) (limit depth start : Nat) :
    (tree.sites depth start).find? (Site.exceeds limit) = none ↔ depth + tree.height ≤ limit := by
  -- the tree is the last one inside itself, and no other reaches below it
  rw [List.find?_eq_none]
  constructor
  · intro fits
    obtain ⟨anchor, member⟩ := tree.mem_sites depth start
    simpa [Site.exceeds] using fits _ member
  · intro room site member
    have below := tree.sites_within depth start site member
    simp only [Site.exceeds, decide_eq_true_eq]
    omega

end Expr

def Spells (items : Stream' LexItem) (place : Nat) : List Token → Prop
  | [] => True
  | token :: tokens =>
    (∃ position, items.get place = .ok ⟨token, position⟩) ∧ Spells items (place + 1) tokens

theorem spells_append (items : Stream' LexItem) (place : Nat) (first second : List Token) :
    Spells items place (first ++ second) ↔
      Spells items place first ∧ Spells items (place + first.length) second := by
  induction first generalizing place with
  | nil => simp [Spells]
  | cons token first ih =>
    rw [List.cons_append, Spells, Spells, ih, and_assoc, List.length_cons, Nat.add_right_comm, Nat.add_assoc]

theorem spells_words (items : Stream' LexItem) (place : Nat) (words : List Spanned)
    (behind : Stream' LexItem) (supply : items.drop place = words.map Except.ok ++ₛ behind) :
    Spells items place (tokensOf words) ∧ items.drop (place + words.length) = behind := by
  induction words generalizing place with
  | nil => exact ⟨trivial, supply⟩
  | cons word words ih =>
    have first : items.get place = .ok word := by
      rw [← Stream'.head_drop, supply]
      rfl
    have others : items.drop (place + 1) = words.map Except.ok ++ₛ behind := by
      rw [← Stream'.tail_drop', supply]
      rfl
    obtain ⟨spells, last⟩ := ih (place + 1) others
    refine ⟨⟨⟨word.position, first⟩, spells⟩, ?_⟩
    rw [List.length_cons, ← last, Nat.add_right_comm, Nat.add_assoc]

theorem Expr.sites_spelled (items : Stream' LexItem) (tree : Expr) (depth place : Nat)
    (spells : Spells items place tree.tokens) : ∀ site ∈ tree.sites depth place,
      ∃ position, items.get site.anchor = .ok ⟨site.tree.ownToken, position⟩ := by
  induction tree generalizing depth place with
  | literal value => exact List.forall_mem_singleton.mpr spells.1
  | var name => exact List.forall_mem_singleton.mpr spells.1
  | assign target value inTarget inValue =>
    obtain ⟨before, own, behind⟩ := (spells_append _ _ _ _).mp spells
    exact forall_mem_parts.mpr ⟨inTarget _ _ before, inValue _ _ behind, own⟩
  | binary op left right inLeft inRight =>
    obtain ⟨before, own, behind⟩ := (spells_append _ _ _ _).mp spells
    exact forall_mem_parts.mpr ⟨inLeft _ _ before, inRight _ _ behind, own⟩
  | index base subscript inBase inSubscript =>
    obtain ⟨opened, _⟩ := (spells_append _ _ _ _).mp spells
    obtain ⟨before, own, inside⟩ := (spells_append _ _ _ _).mp opened
    exact forall_mem_parts.mpr ⟨inBase _ _ before, inSubscript _ _ inside, own⟩

end ExprLang
