import ExprLang.Parse
import ExprLang.Proofs.LexerPlaces
import ExprLang.Proofs.Outcome

/-! Two parses side by side: one of a text, and one of a text that goes on with more,
under a limit that is no lower. Both do the same until the first comes to the end of its
text or to its limit. All places that the first one names are places of its text. -/
namespace ExprLang

private theorem Parser.bind_ok {α β : Type} {first : Parser β} {next : β → Parser α} {stream after : TokenStream}
    {answer : β} (ran : first stream = .ok answer after) : (first >>= next) stream = next answer after := by
  change EStateM.bind first next stream = _
  rw [EStateM.bind, ran]

private theorem Parser.bind_error {α β : Type} {first : Parser β} {next : β → Parser α} {stream after : TokenStream}
    {fault : Error} (ran : first stream = .error fault after) :
    (first >>= next) stream = .error fault after := by
  change EStateM.bind first next stream = _
  rw [EStateM.bind, ran]

/-- What the two parses are of: `source` under `limit`, and the same text with `tail` set
apart behind it. -/
structure Pairing where
  source : String
  tail : List Char
  limit : Nat
  separated : ∀ c ∈ tail.head?, isBlank c = true

namespace Pairing
variable (pair : Pairing)

structure Within (now : TokenStream) : Prop where
  stands : now.lexer.StandsIn pair.source
  whole : now.lexer.finished = true → now.lexer.rest = []
  ahead : ∀ item ∈ now.lookahead, item.position.Locates pair.source
  limit : now.limit = pair.limit

structure Abreast (now other : TokenStream) : Prop where
  lexer : now.lexer.Extends pair.tail other.lexer
  lookahead : other.lookahead = now.lookahead
  depth : other.depth = now.depth
  height : other.height = now.height
  limit : now.limit ≤ other.limit

structure AtEnd (now : TokenStream) : Prop where
  longer : pair.tail ≠ []
  finished : now.lexer.finished = true
  lookahead : ∀ item ∈ now.lookahead, item.token.isEnd = true

/-- Whether the first stream is in order and the second one abreast of it. There is no
second one where the first is at its end. -/
structure Near (now : TokenStream) (other : Option TokenStream) : Prop where
  within : pair.Within now
  beside : match other with
    | some other => pair.Abreast now other
    | none => pair.AtEnd now

def Cut : Error → Prop
  | .parse (.nestingTooDeep _ _) => True
  | .parse (.unexpectedEndOfInput _) => pair.tail ≠ []
  | _ => False

def Shares {α : Type} (second : Parser α) (other : Option TokenStream) (fault : Error) : Prop :=
  fault.position.Locates pair.source ∧
    (pair.Cut fault ∨ ∃ early ∈ other, ∃ late, second early = .error fault late)

/-- Whether two runs go along with each other: to the same answer and on from there, or
to an error that they share. -/
def Follows {α : Type} (first second : Parser α)
    (keeps : α → TokenStream → Option TokenStream → Prop) (now : TokenStream)
    (other : Option TokenStream) : Prop :=
  first.Meets now
    (fun answer after => ∃ ahead, pair.Near after ahead ∧ keeps answer after ahead ∧
      ∀ late ∈ ahead, ∃ early ∈ other, second early = .ok answer late)
    (fun fault _ => pair.Shares second other fault)

def ComesTo (item : Spanned) (other : Option TokenStream) : Prop :=
  item.position.Locates pair.source ∧ (other = none → item.token.isEnd = true)

def Settled (now : TokenStream) : Prop :=
  0 < now.height ∧ now.height ≤ pair.limit

def Alike (first second : Parser Expr) : Prop :=
  ∀ now other, pair.Near now other → pair.Follows first second (fun _ after _ => pair.Settled after) now other

variable {pair}

section
variable {α β : Type} {keeps : α → TokenStream → Option TokenStream → Prop} {now : TokenStream}
  {other : Option TokenStream}

private theorem Shares.through {second : Parser β} {second' : Parser α} {middle : Option TokenStream} {fault : Error}
    (shares : pair.Shares second middle fault)
    (goes : ∀ between ∈ middle, ∀ late, second between = .error fault late →
      ∃ early ∈ other, ∃ last, second' early = .error fault last) : pair.Shares second' other fault := by
  obtain ⟨located, outcome⟩ := shares
  refine ⟨located, outcome.imp_right ?_⟩
  rintro ⟨between, member, late, went⟩
  exact goes between member late went

theorem Follows.congr {first second first' second' : Parser α}
    (follows : pair.Follows first second keeps now other) (same : first' now = first now)
    (sameOther : ∀ early ∈ other, second' early = second early) :
    pair.Follows first' second' keeps now other := by
  have replaced : pair.Follows first' second keeps now other := by
    unfold Follows Parser.Meets at follows ⊢
    rwa [same]
  refine Parser.Meets.mono replaced ?_ ?_
  · rintro answer after ⟨ahead, near, kept, goes⟩
    refine ⟨ahead, near, kept, ?_⟩
    intro late inside
    obtain ⟨early, member, went⟩ := goes late inside
    exact ⟨early, member, (sameOther early member).trans went⟩
  · intro fault after shares
    refine shares.through ?_
    intro early member late went
    exact ⟨early, member, late, (sameOther early member).trans went⟩

theorem Follows.bind {first second : Parser β} {next next' : β → Parser α}
    {middle : β → TokenStream → Option TokenStream → Prop}
    (follows : pair.Follows first second middle now other)
    (goes : ∀ answer after ahead, pair.Near after ahead → middle answer after ahead →
      pair.Follows (next answer) (next' answer) keeps after ahead) :
    pair.Follows (first >>= next) (second >>= next') keeps now other := by
  refine Parser.Meets.bind follows ?_ ?_
  · rintro answer after ⟨ahead, near, kept, went⟩
    refine (goes answer after ahead near kept).mono ?_ ?_
    · rintro last final ⟨far, nearFinal, keptFinal, wentOn⟩
      refine ⟨far, nearFinal, keptFinal, ?_⟩
      intro late inside
      obtain ⟨between, member, ranNext⟩ := wentOn late inside
      obtain ⟨early, start, ran⟩ := went between member
      exact ⟨early, start, (Parser.bind_ok ran).trans ranNext⟩
    · intro fault final shares
      refine shares.through ?_
      intro between member late ranNext
      obtain ⟨early, start, ran⟩ := went between member
      exact ⟨early, start, late, (Parser.bind_ok ran).trans ranNext⟩
  · intro fault after shares
    refine shares.through ?_
    intro early start late ran
    exact ⟨early, start, late, Parser.bind_error ran⟩

theorem Follows.mono {first second : Parser α} (follows : pair.Follows first second keeps now other)
    {keeps' : α → TokenStream → Option TokenStream → Prop}
    (weaker : ∀ answer after ahead, keeps answer after ahead → keeps' answer after ahead) :
    pair.Follows first second keeps' now other := by
  refine Parser.Meets.mono follows ?_ (fun _ _ outcome => outcome)
  rintro answer after ⟨ahead, near, kept, goes⟩
  exact ⟨ahead, near, weaker answer after ahead kept, goes⟩

theorem Follows.and {first second : Parser α} {accepts : α → TokenStream → Prop}
    {allows : Error → TokenStream → Prop} (follows : pair.Follows first second keeps now other)
    (meets : first.Meets now accepts allows) :
    pair.Follows first second (fun answer after ahead => keeps answer after ahead ∧ accepts answer after)
      now other := by
  unfold Follows Parser.Meets at follows ⊢
  unfold Parser.Meets at meets
  cases ran : first now with
  | ok answer after =>
    rw [ran] at follows meets
    obtain ⟨ahead, near, kept, goes⟩ := follows
    exact ⟨ahead, near, ⟨kept, meets⟩, goes⟩
  | error fault after =>
    rw [ran] at follows
    exact follows

theorem follows_pure {answer : α} (near : pair.Near now other) (kept : keeps answer now other) :
    pair.Follows (pure answer) (pure answer) keeps now other :=
  ⟨other, near, kept, fun late inside => ⟨late, inside, rfl⟩⟩

theorem follows_throw {fault : Error} (located : fault.position.Locates pair.source)
    (cut : other = none → pair.Cut fault) :
    pair.Follows (throw fault : Parser α) (throw fault) keeps now other := by
  refine ⟨located, ?_⟩
  cases other with
  | none => exact .inl (cut rfl)
  | some early => exact .inr ⟨early, rfl, early, rfl⟩

theorem follows_get {next next' : TokenStream → Parser α}
    (follows : pair.Follows (next now) (next' (other.getD now)) keeps now other) :
    pair.Follows (get >>= next) (get >>= next') keeps now other := by
  refine follows.congr rfl ?_
  intro early member
  rw [Option.mem_def.mp member]
  rfl

end

section
variable {now late : TokenStream} {other : Option TokenStream}

theorem Near.limit (near : pair.Near now other) : now.limit = pair.limit := near.within.limit

theorem Near.limit_le (near : pair.Near now other) : pair.limit ≤ (other.getD now).limit := by
  rw [← near.limit]
  cases other with
  | none => exact Nat.le_refl _
  | some late => exact near.beside.limit

theorem Near.height (near : pair.Near now other) : (other.getD now).height = now.height := by
  cases other with
  | none => rfl
  | some late => exact near.beside.height

theorem Near.account (near : pair.Near now other) (change : TokenStream → TokenStream)
    (stays : ∀ stream, (change stream).lexer = stream.lexer ∧
      (change stream).lookahead = stream.lookahead ∧ (change stream).limit = stream.limit)
    (alike : ∀ first second : TokenStream, second.depth = first.depth → second.height = first.height →
      (change second).depth = (change first).depth ∧ (change second).height = (change first).height) :
    pair.Near (change now) (other.map change) := by
  obtain ⟨⟨stands, whole, ahead, limit⟩, beside⟩ := near
  obtain ⟨sameLexer, sameLookahead, sameLimit⟩ := stays now
  rw [← sameLexer] at stands whole
  rw [← sameLookahead] at ahead
  refine ⟨⟨stands, whole, ahead, sameLimit.trans limit⟩, ?_⟩
  cases other with
  | some late =>
    obtain ⟨lexer, lookahead, depth, height, limits⟩ := beside
    obtain ⟨lateLexer, lateLookahead, lateLimit⟩ := stays late
    obtain ⟨depths, heights⟩ := alike now late depth height
    rw [← sameLexer, ← lateLexer] at lexer
    rw [← sameLookahead, ← lateLookahead] at lookahead
    rw [← sameLimit, ← lateLimit] at limits
    exact ⟨lexer, lookahead, depths, heights, limits⟩
  | none =>
    obtain ⟨longer, finished, lookahead⟩ := beside
    rw [← sameLexer] at finished
    rw [← sameLookahead] at lookahead
    exact ⟨longer, finished, lookahead⟩

theorem record_follows (near : pair.Near now other) (event : Event) :
    pair.Follows (Parser.record event) (Parser.record event) (fun _ after _ => after.height = now.height)
      now other := by
  refine ⟨other.map (·.record event), ?_, rfl, ?_⟩
  · exact near.account (·.record event) (fun _ => ⟨rfl, rfl, rfl⟩) (fun _ _ depth height => ⟨depth, height⟩)
  · intro late inside
    obtain ⟨early, member, rfl⟩ := Option.map_eq_some_iff.mp inside
    exact ⟨early, member, rfl⟩

theorem settle_follows (near : pair.Near now other) (height : Nat) (position : Position)
    (located : position.Locates pair.source) :
    pair.Follows (Parser.settle height position) (Parser.settle height position)
      (fun _ after _ => after.height = height ∧ height ≤ pair.limit) now other := by
  refine Parser.Meets.mono (Parser.settle_meets height position now) ?_ ?_
  · rintro _ after ⟨rfl, fits⟩
    refine ⟨other.map ({ · with height := height }), ?_, ⟨rfl, ?_⟩, ?_⟩
    · exact near.account ({ · with height := height }) (fun _ => ⟨rfl, rfl, rfl⟩)
        (fun _ _ depth _ => ⟨depth, rfl⟩)
    · rw [← near.limit]
      omega
    · intro late inside
      obtain ⟨early, rfl, rfl⟩ := Option.map_eq_some_iff.mp inside
      refine ⟨early, rfl, ?_⟩
      have limits := near.beside.limit
      have depths := near.beside.depth
      unfold Parser.settle
      rw [if_neg (by omega)]
  · rintro fault after ⟨rfl, _, _⟩
    exact ⟨located, .inl trivial⟩

theorem nested_follows {inner inner' : Parser Expr} (alike : pair.Alike inner inner')
    (near : pair.Near now other) :
    pair.Follows (Parser.nested inner) (Parser.nested inner') (fun _ _ _ => True) now other := by
  have below := near.account TokenStream.descend (fun _ => ⟨rfl, rfl, rfl⟩)
    (fun _ _ depth height => ⟨congrArg (· + 1) depth, height⟩)
  refine Parser.meets_nested (Parser.Meets.mono (alike _ _ below) ?_ ?_)
  · rintro answer after ⟨ahead, nearAfter, _, goes⟩
    refine ⟨ahead.map TokenStream.ascend, ?_, trivial, ?_⟩
    · exact nearAfter.account TokenStream.ascend (fun _ => ⟨rfl, rfl, rfl⟩)
        (fun _ _ depth height => ⟨congrArg (· - 1) depth, height⟩)
    · intro late inside
      obtain ⟨between, member, rfl⟩ := Option.map_eq_some_iff.mp inside
      obtain ⟨deeper, start, went⟩ := goes between member
      obtain ⟨early, member, rfl⟩ := Option.map_eq_some_iff.mp start
      refine ⟨early, member, ?_⟩
      unfold Parser.nested
      rw [went]
  · intro fault after shares
    refine shares.through ?_
    intro deeper start late went
    obtain ⟨early, member, rfl⟩ := Option.map_eq_some_iff.mp start
    refine ⟨early, member, late.ascend, ?_⟩
    unfold Parser.nested
    rw [went]

private theorem pull_end (near : pair.Near now other) (finished : now.lexer.finished = true) :
    pair.Follows Parser.pull Parser.pull (fun item _ ahead => pair.ComesTo item ahead) now other := by
  have read := Lexer.next_of_finished now.lexer finished
  have located := near.within.stands.position_locates near.within.whole
  unfold Follows Parser.Meets Parser.pull
  rw [read]
  refine ⟨other, near, ⟨located, fun _ => rfl⟩, ?_⟩
  intro late inside
  obtain rfl := Option.mem_def.mp inside
  obtain ⟨readLate, place⟩ := near.beside.lexer.next_none finished
  refine ⟨late, rfl, ?_⟩
  rw [readLate]
  simp only [place]

private theorem pull_word (near : pair.Near now (some late)) (empty : now.lookahead = none) (word : Spanned)
    (after : Lexer) (read : now.lexer.next = (some (.ok word), after)) :
    pair.Follows Parser.pull Parser.pull (fun item _ ahead => pair.ComesTo item ahead) now (some late) := by
  have passes := Lexer.next_passes _ _ _ read
  obtain ⟨⟨stands, _, _, limit⟩, beside⟩ := near
  obtain ⟨standsAfter, located⟩ := passes.standsIn stands
  have within : pair.Within ({ now with lexer := after }.record (.lexed word)) :=
    ⟨standsAfter, passes.whole, by simp [TokenStream.record, empty], limit⟩
  unfold Follows Parser.Meets Parser.pull
  rw [read]
  obtain ⟨longer, finished, place, isEnd⟩ | ⟨ahead, passesLate, further⟩ := passes.append beside.lexer pair.separated
  · -- from here on there is no second run to go along with
    cases isEnd
    refine ⟨none, ⟨within, longer, finished, ?_⟩, ⟨located, fun _ => rfl⟩, by simp⟩
    simp [TokenStream.record, empty]
  · have readLate := Lexer.next_of_passes _ _ _ passesLate
    refine ⟨some ({ late with lexer := ahead }.record (.lexed word)), ⟨within, ?_⟩, ⟨located, by simp⟩, ?_⟩
    · exact ⟨further word rfl, beside.lookahead, beside.depth, beside.height, beside.limit⟩
    · intro last inside
      cases inside
      refine ⟨late, rfl, ?_⟩
      rw [readLate]

private theorem pull_refusal (near : pair.Near now (some late)) (cause : LexError) (after : Lexer)
    (read : now.lexer.next = (some (.error cause), after)) :
    pair.Follows Parser.pull Parser.pull (fun item _ ahead => pair.ComesTo item ahead) now (some late) := by
  have passes := Lexer.next_passes _ _ _ read
  have located := (passes.standsIn near.within.stands).2
  unfold Follows Shares Parser.Meets Parser.pull
  rw [read]
  obtain ⟨_, _, _, isEnd⟩ | ⟨ahead, passesLate, _⟩ := passes.append near.beside.lexer pair.separated
  · cases isEnd
  · have readLate := Lexer.next_of_passes _ _ _ passesLate
    refine ⟨located, .inr ⟨late, rfl, { late with lexer := ahead }.record (.rejected cause), ?_⟩⟩
    rw [readLate]

private theorem pull_follows (near : pair.Near now other) (empty : now.lookahead = none) :
    pair.Follows Parser.pull Parser.pull (fun item _ ahead => pair.ComesTo item ahead) now other := by
  by_cases finished : now.lexer.finished = true
  · exact pull_end near finished
  · cases other with
    | none => exact absurd near.beside.finished finished
    | some late =>
      cases read : now.lexer.next with
      | mk found after =>
        cases found with
        | none => exact absurd (Lexer.next_none _ _ read).1 finished
        | some item =>
          cases item with
          | ok word => exact pull_word near empty word after read
          | error cause => exact pull_refusal near cause after read

theorem advance_follows (near : pair.Near now other) :
    pair.Follows Parser.advance Parser.advance (fun item _ ahead => pair.ComesTo item ahead) now other := by
  cases ahead : now.lookahead with
  | none =>
    refine (pull_follows near ahead).congr ?_ ?_
    · rw [Parser.advance, ahead]
    · intro early member
      obtain rfl := Option.mem_def.mp member
      rw [Parser.advance, near.beside.lookahead, ahead]
  | some item =>
    obtain ⟨⟨stands, whole, located, limit⟩, beside⟩ := near
    have place := located item ahead
    unfold Follows Parser.Meets Parser.advance
    rw [ahead]
    refine ⟨other.map ({ · with lookahead := none }), ⟨⟨stands, whole, nofun, limit⟩, ?_⟩, ?_, ?_⟩
    · cases other with
      | none => exact ⟨beside.longer, beside.finished, nofun⟩
      | some late => exact ⟨beside.lexer, rfl, beside.depth, beside.height, beside.limit⟩
    · refine ⟨place, fun ends => ?_⟩
      rw [Option.map_eq_none_iff.mp ends] at beside
      exact beside.lookahead item ahead
    · intro late inside
      obtain ⟨early, rfl, rfl⟩ := Option.map_eq_some_iff.mp inside
      refine ⟨early, rfl, ?_⟩
      rw [beside.lookahead, ahead]

theorem peek_follows (near : pair.Near now other) :
    pair.Follows Parser.peek Parser.peek
      (fun item after ahead => pair.ComesTo item ahead ∧ after.height = now.height) now other := by
  refine Follows.mono (Follows.and ?_ (Parser.peek_meets now)) (fun _ _ _ kept => ⟨kept.1, kept.2.2.2.height⟩)
  unfold Parser.peek
  refine (advance_follows near).bind ?_
  intro item after ahead nearAfter known
  obtain ⟨⟨stands, whole, _, limit⟩, beside⟩ := nearAfter
  refine ⟨ahead.map ({ · with lookahead := some item }), ⟨⟨stands, whole, ?_, limit⟩, ?_⟩, ?_, ?_⟩
  · rintro found ⟨⟩
    exact known.1
  · cases ahead with
    | none =>
      refine ⟨beside.longer, beside.finished, ?_⟩
      rintro found ⟨⟩
      exact known.2 rfl
    | some late => exact ⟨beside.lexer, rfl, beside.depth, beside.height, beside.limit⟩
  · exact ⟨known.1, fun ends => known.2 (Option.map_eq_none_iff.mp ends)⟩
  · intro late inside
    obtain ⟨early, member, rfl⟩ := Option.map_eq_some_iff.mp inside
    exact ⟨early, member, rfl⟩

theorem eat_follows (near : pair.Near now other) (kind : TokenKind) :
    pair.Follows (Parser.eat kind) (Parser.eat kind)
      (fun found after ahead => after.height = now.height ∧
        ∀ item ∈ found, item.token.kind = kind ∧ pair.ComesTo item ahead) now other := by
  have items : pair.Follows (Parser.eat kind) (Parser.eat kind)
      (fun found _ ahead => ∀ item ∈ found, pair.ComesTo item ahead) now other := by
    unfold Parser.eat
    refine (peek_follows near).bind ?_
    intro next after ahead nearAfter _
    split
    · refine (advance_follows nearAfter).bind ?_
      intro item last far nearLast known
      refine follows_pure nearLast ?_
      rintro found ⟨⟩
      exact known
    · exact follows_pure nearAfter nofun
  refine (items.and (Parser.eat_meets kind now)).mono ?_
  intro found after ahead kept
  obtain ⟨known, same, outcome⟩ := kept
  refine ⟨same.height, ?_⟩
  rintro item ⟨⟩
  exact ⟨outcome.1, known item rfl⟩

theorem follows_unexpected {α : Type} {keeps : α → TokenStream → Option TokenStream → Prop}
    {item : Spanned} (known : pair.ComesTo item other) (near : pair.Near now other)
    (expected : List TokenKind) :
    pair.Follows (throw (Parser.unexpected item expected) : Parser α)
      (throw (Parser.unexpected item expected)) keeps now other := by
  unfold Parser.unexpected
  split
  · refine follows_throw known.1 ?_
    rintro rfl
    exact near.beside.longer
  · rename_i word
    exact follows_throw known.1 (fun ends => absurd (known.2 ends) word)

theorem expect_follows (near : pair.Near now other) (kind : TokenKind) :
    pair.Follows (Parser.expect kind) (Parser.expect kind) (fun _ _ _ => True) now other := by
  unfold Parser.expect
  refine (advance_follows near).bind ?_
  intro item after ahead nearAfter known
  split
  · exact follows_pure nearAfter trivial
  · exact follows_unexpected known nearAfter _

end

end Pairing

end ExprLang
