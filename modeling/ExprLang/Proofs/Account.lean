import ExprLang.Proofs.StreamCalls

/-! The account of nesting. Reading leaves the depth as it found it, also where it fails, and a
tree that has been read is the one accounted for. So a stream that is read from again after an
error still holds its trees to the same limit. -/
namespace ExprLang

def StreamCall.level : StreamCall → Nat → Nat
  | .descend, depth => depth + 1
  | .ascend, depth => depth - 1
  | _, depth => depth

namespace TokenStream

structure SameLevel (before after : TokenStream) : Prop where
  depth : after.depth = before.depth
  limit : after.limit = before.limit

private theorem SameAccount.level {before after : TokenStream} (same : before.SameAccount after) :
    before.SameLevel after :=
  ⟨same.depth, same.limit⟩

private theorem Breaks.level {stream after : TokenStream} {fault : Error} (breaks : stream.Breaks fault after) :
    stream.SameLevel after := by
  obtain ⟨_, _, _, same⟩ := breaks
  exact same.level

private theorem lasting_limit (limit : Nat) : Lasting (fun now => now.limit = limit) where
  peek := by
    intro now same
    refine (Parser.peek_meets now).mono ?_ (fun _ _ breaks => breaks.level.limit.trans same)
    rintro item after ⟨_, _, account⟩
    exact account.limit.trans same
  advance := by
    intro now same
    refine (Parser.advance_meets now).mono ?_ (fun _ _ breaks => breaks.level.limit.trans same)
    rintro item after ⟨_, _, account⟩
    exact account.limit.trans same
  account := fun _ _ _ same => same
  report := fun _ _ same => same

end TokenStream

namespace Parser

def Restores {α : Type} (parser : Parser α) (stream : TokenStream) : Prop :=
  parser.Meets stream (fun _ => stream.SameLevel) (fun _ => stream.SameLevel)

private theorem settle_restores (height : Nat) (position : Position) (stream : TokenStream) :
    (settle height position).Restores stream := by
  refine (settle_meets height position stream).mono ?_ ?_
  · rintro _ after ⟨rfl, _⟩
    exact ⟨rfl, rfl⟩
  · rintro fault after ⟨_, rfl, _⟩
    exact ⟨rfl, rfl⟩

end Parser

private theorem TokenCall.restores (call : TokenCall) (stream : TokenStream) : call.parser.Restores stream := by
  cases call with
  | peek =>
    refine (Parser.peek_meets stream).bind ?_ (fun _ _ breaks => breaks.level)
    rintro item after ⟨_, _, same⟩
    exact same.level
  | advance =>
    refine (Parser.advance_meets stream).bind ?_ (fun _ _ breaks => breaks.level)
    rintro item after ⟨_, _, same⟩
    exact same.level
  | eat kind =>
    refine (Parser.eat_meets kind stream).mono ?_ (fun _ _ breaks => breaks.level)
    rintro found after ⟨same, _⟩
    exact same.level
  | expect kind =>
    refine (Parser.expect_meets kind stream).bind ?_ ?_
    · rintro item after ⟨_, _, same⟩
      exact same.level
    · rintro fault after (breaks | ⟨item, _, _, _, same⟩)
      · exact breaks.level
      · exact same.level

private theorem Tier.restores (tier : Tier) (stream : TokenStream) : tier.parser.Restores stream := by
  have keeps := Parser.tier_keeps (TokenStream.lasting_limit stream.limit) tier stream rfl
  refine (Parser.Meets.and (tier.reads stream) keeps).mono ?_ ?_
  · rintro tree after ⟨⟨⟨words, derived⟩, _⟩, limit⟩
    exact ⟨derived.depth, limit⟩
  · rintro fault after ⟨⟨_, depth⟩, limit⟩
    exact ⟨depth, limit⟩

namespace TokenStream

theorem perform_level (stream : TokenStream) (call : StreamCall) :
    (stream.perform call).depth = call.level stream.depth ∧ (stream.perform call).limit = stream.limit := by
  cases call with
  | token call =>
    rw [perform, call_leave]
    have same := Parser.Meets.leave (call.restores stream)
    exact ⟨same.depth, same.limit⟩
  | descend => exact ⟨rfl, rfl⟩
  | ascend => exact ⟨rfl, rfl⟩
  | settle height position =>
    have same := Parser.Meets.leave (Parser.settle_restores height position stream)
    exact ⟨same.depth, same.limit⟩
  | read tier =>
    have same := Parser.Meets.leave (tier.restores stream)
    exact ⟨same.depth, same.limit⟩

/-- Whatever is done with a stream, its depth comes of what went down and came up by hand, and
its limit is the one that it was made with. -/
theorem performAll_level (stream : TokenStream) (calls : List StreamCall) :
    (stream.performAll calls).depth = calls.foldl (fun depth call => call.level depth) stream.depth ∧
      (stream.performAll calls).limit = stream.limit := by
  induction calls generalizing stream with
  | nil => exact ⟨rfl, rfl⟩
  | cons call calls ih =>
    obtain ⟨depth, limit⟩ := stream.perform_level call
    obtain ⟨depths, limits⟩ := ih (stream.perform call)
    rw [depth] at depths
    exact ⟨depths, limits.trans limit⟩

end TokenStream

/-- Whatever a stream has been through, reading a phrase from it comes back to the depth that it
began at, with a tree or with an error, and a tree that is read is accounted for by its height,
which fits in below that depth. -/
theorem reading_restores_account (tier : Tier) (stream : TokenStream) :
    match tier.parser stream with
    | .ok tree after =>
      (after.depth = stream.depth ∧ after.limit = stream.limit) ∧
        after.height = tree.height ∧ after.depth + tree.height ≤ after.limit
    | .error _ after => after.depth = stream.depth ∧ after.limit = stream.limit := by
  have meets := (tier.reads stream).and (tier.restores stream)
  unfold Parser.Meets at meets
  cases ran : tier.parser stream with
  | ok tree after =>
    rw [ran] at meets
    obtain ⟨⟨⟨words, derived⟩, _⟩, same⟩ := meets
    refine ⟨⟨same.depth, same.limit⟩, derived.height, ?_⟩
    rw [same.depth, same.limit]
    exact derived.room
  | error fault after =>
    rw [ran] at meets
    exact ⟨meets.2.depth, meets.2.limit⟩

/-- Two levels down after an error in the brackets, `a[b]` still has just the room that it needs. -/
example :
    let down : List StreamCall := [.descend, .descend, .read .expression]
    let stream := (TokenStream.ofString "c[*a[b]" ⟨4⟩).performAll down
    (stream.depth, stream.height) = (2, 1) ∧
      (match Tier.expression.parser stream with
      | .ok tree after => some (tree, after.depth, after.height)
      | .error _ _ => none) = some (.index (.var "a") (.var "b"), 2, 2) := by
  decide +kernel

end ExprLang
