import ExprLang.Proofs.Settling
import ExprLang.Proofs.TokenSequence

/-! How far a phrase goes. Wherever a stream stands, a parser reads the longest phrase of its
tier that begins there: it takes the tokens of one tree, and the token behind them does not go on
with it. -/
namespace ExprLang

/-- Whether the token right behind the tree goes on with the operand of the level that it began. -/
def Expr.Continues (level : Nat) (tree : Expr) : Token → Prop
  | .operator op => max level Precedence.comparison ≤ op.precedence
  | .assign => level = Precedence.assignment
  | .leftBracket =>
    ∃ last, tree.tokens.getLast? = some last ∧ (last.kind = .identifier ∨ last.kind = .rightBracket)
  | _ => False

theorem Expr.endsIndexable_iff (tree : Expr) : tree.endsIndexable = true ↔
    ∃ last, tree.tokens.getLast? = some last ∧ (last.kind = .identifier ∨ last.kind = .rightBracket) := by
  -- the last token of a tree is that of its last part, but for brackets, which close it
  have behind (tokens : List Token) (token : Token) (part : Expr) :
      (tokens ++ token :: part.tokens).getLast? = part.tokens.getLast? := by
    have someToken := part.tokens_length_pos
    rw [List.append_cons, List.getLast?_append_of_ne_nil]
    exact List.ne_nil_of_length_pos someToken
  induction tree with
  | literal value => simp [endsIndexable, tokens, Token.kind]
  | var name => simp [endsIndexable, tokens, Token.kind]
  | assign target value _ ih =>
    rw [tokens, behind]
    exact ih
  | binary op left right _ ih =>
    rw [tokens, behind]
    exact ih
  | index base subscript =>
    rw [tokens, List.getLast?_concat]
    exact ⟨fun _ => ⟨_, rfl, .inr rfl⟩, fun _ => rfl⟩

theorem Expr.continues_iff (level : Nat) (tree : Expr) (token : Token) :
    tree.Continues level token ↔ (Phrase.ofLevel level).goesOn tree token = true := by
  cases token with
  | operator op =>
    have binds : Precedence.comparison ≤ op.precedence := by cases op <;> decide
    simp only [Continues, Phrase.goesOn, Phrase.level_ofLevel, decide_eq_true_eq]
    omega
  | assign =>
    simp only [Continues, Phrase.goesOn, Phrase.level_ofLevel, decide_eq_true_eq]
    exact Nat.le_zero.symm
  | leftBracket => exact tree.endsIndexable_iff.symm
  | _ => simp [Continues, Phrase.goesOn]

section
variable {source : String} {stream : TokenStream} {tier : Tier} {tree : Expr}

private theorem fits_of_derived (stands : stream.StandsIn source) {words : List Spanned} {after : TokenStream}
    (derived : stream.Derived (.ofLevel tier.precedence) words tree after) :
    tree.fits tier.precedence = true := by
  -- the tokens have come from a text, so they can be written
  have writable : ∀ token ∈ tokensOf words, token.Writable := by
    intro token member
    have notEnd := Derives.ne_endOfInput _ _ tree derived.derives token member
    obtain ⟨word, inside, rfl⟩ := List.mem_map.mp member
    obtain ⟨index, bound, rfl⟩ := List.getElem_of_mem inside
    have next : stream.supply.get index = .ok words[index] := by
      rw [derived.takes, Stream'.get_append_left _ _ _ (by simpa using bound), List.getElem_map]
    refine stands.writable index _ next ?_
    cases token : words[index].token with
    | endOfInput => exact absurd token notEnd
    | _ => rfl
  have fits := Expr.isExpressible_of_derives _ _ tree derived.derives writable
  rw [Phrase.level_ofLevel] at fits
  exact (tree.fits_iff _).mpr fits

private theorem spelled_of_derived {words : List Spanned} {after : TokenStream}
    (derived : stream.Derived (.ofLevel tier.precedence) words tree after) :
    Spells stream.supply 0 tree.tokens ∧ after.supply = stream.supply.drop tree.tokens.length := by
  have tokens := derived.derives.tokens_eq _ _ _
  obtain ⟨spells, behind⟩ := spells_words stream.supply 0 words after.supply derived.takes
  rw [tokens]
  refine ⟨spells, ?_⟩
  rw [← behind, Nat.zero_add, tokensOf, List.length_map]

private theorem reads_of_spelled (next : Spanned) (fits : tree.fits tier.precedence = true)
    (spells : Spells stream.supply 0 tree.tokens) (item : stream.supply.get tree.tokens.length = .ok next)
    (stops : ¬ tree.Continues tier.precedence next.token) :
    tier.parser.Meets stream
      (fun answer after => stream.depth + tree.height ≤ stream.limit ∧ answer = tree ∧
        after.supply = stream.supply.drop tree.tokens.length)
      (fun fault _ => stream.limit < stream.depth + tree.height ∧
        ∃ position, fault = .parse (.nestingTooDeep stream.limit position)) := by
  let setting : Setting := ⟨stream.supply, stream.depth, stream.limit⟩
  have reaches : setting.Reaches 0 stream := ⟨rfl, rfl, rfl⟩
  have ends : setting.Ends tier.precedence 0 tree := by
    refine ⟨next, ?_, ?_⟩
    · rw [Nat.zero_add]
      exact item
    · rw [Expr.continues_iff, Bool.not_eq_true] at stops
      exact stops
  refine (tier.builds setting tree 0 stream fits reaches spells ends).mono ?_ ?_
  · rintro answer after ⟨within, rfl, raises⟩
    have behind := raises.supply
    rw [Nat.zero_add] at behind
    exact ⟨raises.room, rfl, behind⟩
  · rintro fault after ⟨site, found, rfl⟩
    refine ⟨?_, _, rfl⟩
    by_contra room
    rw [(tree.find_exceeds_eq_none_iff _ _ _).mpr (Nat.le_of_not_lt room)] at found
    contradiction

end

/-- A parser takes the tokens of a tree that fits its tier, up to one that does not go on with it.
And each such tree that lies before the stream is the one that it reads, as far as the limit
allows it. -/
theorem reads_longest_phrase (source : String) (lexed : List LexerCall) (options : Options)
    (calls : List StreamCall) (tier : Tier) (tree : Expr) :
    let lexer := (Lexer.ofString source).performAll lexed
    let stream := (TokenStream.ofLexer lexer options).performAll calls
    (∀ after, tier.parser stream = .ok tree after →
      tree.fits tier.precedence = true ∧ Spells stream.supply 0 tree.tokens ∧
        after.supply = stream.supply.drop tree.tokens.length ∧
        ∀ next, after.supply.head = .ok next → ¬ tree.Continues tier.precedence next.token) ∧
    ∀ next, tree.fits tier.precedence = true → Spells stream.supply 0 tree.tokens →
      stream.supply.get tree.tokens.length = .ok next → ¬ tree.Continues tier.precedence next.token →
        (stream.depth + tree.height ≤ stream.limit →
          ∃ after, tier.parser stream = .ok tree after ∧
            after.supply = stream.supply.drop tree.tokens.length) ∧
        (stream.limit < stream.depth + tree.height →
          ∃ position after,
            tier.parser stream = .error (.parse (.nestingTooDeep stream.limit position)) after) := by
  intro lexer stream
  have stands : stream.StandsIn source := TokenStream.performAll_standsIn source lexed options calls
  constructor
  · intro after ran
    have reads := tier.reads stream
    unfold Parser.Reads Parser.Meets at reads
    rw [ran] at reads
    obtain ⟨⟨words, derived⟩, ends⟩ := reads
    obtain ⟨spells, behind⟩ := spelled_of_derived derived
    refine ⟨fits_of_derived stands derived, spells, behind, ?_⟩
    intro next item
    rw [Expr.continues_iff, Bool.not_eq_true]
    exact ends next item
  · intro next fits spells item stops
    have meets := reads_of_spelled next fits spells item stops
    unfold Parser.Meets at meets
    cases ran : tier.parser stream with
    | ok answer after =>
      rw [ran] at meets
      obtain ⟨room, rfl, behind⟩ := meets
      exact ⟨fun _ => ⟨after, rfl, behind⟩, fun tall => absurd room (Nat.not_le_of_lt tall)⟩
    | error fault after =>
      rw [ran] at meets
      obtain ⟨tall, position, rfl⟩ := meets
      exact ⟨fun room => absurd room (Nat.not_le_of_lt tall), fun _ => ⟨position, after, rfl⟩⟩

/-- The product that a difference begins with, read one level down with its first token looked at. -/
theorem reads_longest_phrase_product :
    let tree : Expr := .binary .mul (.var "a") (.index (.var "b") (.literal 1))
    let stream (limit : Nat) :=
      (TokenStream.ofLexer ((Lexer.ofString "x = a * b[1] - c").performAll [.next]) ⟨limit⟩).performAll
        [.descend, .token .advance, .token .peek]
    (∃ after, Tier.multiplicative.parser (stream 4) = .ok tree after ∧
      after.supply.head = .ok ⟨.operator .sub, ⟨13, 1, 14⟩⟩ ∧
      ¬ tree.Continues Precedence.multiplicative (.operator .sub)) ∧
    ∃ position after,
      Tier.multiplicative.parser (stream 3) = .error (.parse (.nestingTooDeep 3 position)) after := by
  intro tree stream
  have next (limit : Nat) : (stream limit).supply.get 6 = .ok ⟨.operator .sub, ⟨13, 1, 14⟩⟩ := by rfl
  have spells (limit : Nat) : Spells (stream limit).supply 0 tree.tokens := by
    refine ⟨⟨⟨4, 1, 5⟩, ?_⟩, ⟨⟨6, 1, 7⟩, ?_⟩, ⟨⟨8, 1, 9⟩, ?_⟩, ⟨⟨9, 1, 10⟩, ?_⟩, ⟨⟨10, 1, 11⟩, ?_⟩,
      ⟨⟨11, 1, 12⟩, ?_⟩, trivial⟩ <;> rfl
  have stops : ¬ tree.Continues Precedence.multiplicative (.operator .sub) := by
    rw [Expr.continues_iff]
    decide
  have longest (limit : Nat) := reads_longest_phrase "x = a * b[1] - c" [.next] ⟨limit⟩
    [.descend, .token .advance, .token .peek] .multiplicative tree
  have read (limit : Nat) := (longest limit).2 _ (by decide +kernel) (spells limit) (next limit) stops
  obtain ⟨after, ran, behind⟩ := (read 4).1 (by decide)
  obtain ⟨_, _, _, ends⟩ := (longest 4).1 after ran
  have head : after.supply.head = .ok ⟨.operator .sub, ⟨13, 1, 14⟩⟩ := by
    rw [behind]
    exact next 4
  exact ⟨⟨after, ran, head, ends _ head⟩, (read 3).2 (by decide)⟩

end ExprLang
