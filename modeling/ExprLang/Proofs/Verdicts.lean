import ExprLang.Parse
import ExprLang.Proofs.PhraseParsers

/-! What a parse says of a whole text. An answer is a derivation from all of its
tokens. An error names the item behind the tokens that were taken, and tells why no
expression goes on from there, or why each one that does is too tall. -/
namespace ExprLang

/-- Whether every token of the kind could stand behind the tokens. The end of input
can where they are an expression. -/
def Admits (tokens : List Token) : TokenKind → Prop
  | .endOfInput => Sentence tokens
  | kind => ∀ token, token.kind = kind → Viable (tokens ++ [token])

/-- Whether an error fits a text of which the words `taken` were read, up to `next`. -/
def Faults (limit : Nat) (taken : List Spanned) (next : LexItem) : Error → Prop
  | .lex cause => next = .error cause ∧ Viable (tokensOf taken)
  | .parse (.unexpectedEndOfInput position) =>
    next = .ok ⟨.endOfInput, position⟩ ∧ Viable (tokensOf taken) ∧ ¬ Sentence (tokensOf taken)
  | .parse (.unexpectedToken expected found position) =>
    next = .ok ⟨found, position⟩ ∧ found.isEnd = false ∧ Viable (tokensOf taken) ∧
      ¬ Viable (tokensOf taken ++ [found]) ∧ (∀ kind ∈ expected, Admits (tokensOf taken) kind) ∧
      (found = .assign → .identifier ∈ expected)
  | .parse (.invalidAssignmentTarget position) =>
    (∃ place, next = .ok ⟨.assign, place⟩) ∧ Viable (tokensOf taken) ∧
      ¬ Viable (tokensOf taken ++ [.assign]) ∧ EndsInNoTarget .expression taken position
  | .parse (.nestingTooDeep bound _) =>
    bound = limit ∧ Viable (tokensOf taken) ∧
      ∃ state, (Reading.wanting []).run (tokensOf taken) = some state ∧ limit < state.reach

private theorem word_of_viable (taken : List Spanned) (viable : Viable (tokensOf taken)) :
    ∀ word ∈ taken, word.token.isEnd = false := by
  obtain ⟨rest, tree, derived⟩ := viable
  intro word inside
  have member : word.token ∈ tokensOf taken := List.mem_map_of_mem inside
  generalize word.token = token at member ⊢
  have notEnd := Derives.ne_endOfInput _ _ tree derived token (List.mem_append_left rest member)
  cases token with
  | endOfInput => contradiction
  | _ => rfl

theorem Faults.viable {limit : Nat} {taken : List Spanned} {next : LexItem} {fault : Error}
    (faults : Faults limit taken next fault) : Viable (tokensOf taken) := by
  cases fault with
  | lex cause => exact faults.2
  | parse fault =>
    cases fault with
    | unexpectedEndOfInput position => exact faults.2.1
    | unexpectedToken expected found position => exact faults.2.2.1
    | invalidAssignmentTarget position => exact faults.2.1
    | nestingTooDeep bound position => exact faults.2.1

theorem Faults.lt_length {limit bound : Nat} {taken : List Spanned} {next : LexItem} {position : Position}
    (faults : Faults limit taken next (.parse (.nestingTooDeep bound position))) :
    limit < taken.length := by
  obtain ⟨_, _, state, ran, tall⟩ := faults
  have reached := (Reading.reach_run _ state _ ran).2
  rw [show (Reading.wanting []).reach = 0 from rfl, tokensOf, List.length_map] at reached
  omega

private theorem not_viable_of_refuses (taken : List Token) (token : Token)
    (refuses : Phrase.expression.Refuses taken token) : ¬ Viable (taken ++ [token]) := by
  intro viable
  obtain ⟨state, ran⟩ := Reading.run_of_viable _ viable
  rw [refuses [] (Reading.beginsIn_nothing _)] at ran
  contradiction

private theorem not_sentence_of_lacking (taken : List Token) (lacking : Phrase.expression.Lacking taken) :
    ¬ Sentence taken := by
  intro sentence
  obtain ⟨tree, derived⟩ := sentence
  obtain ⟨state, ran, finished⟩ := Option.bind_eq_some_iff.mp (Reading.finish_of_derives taken tree derived)
  rw [state.finish_of_lacks (lacking [] state (Reading.beginsIn_nothing _) ran)] at finished
  contradiction

private theorem faults_of_blames (limit : Nat) (taken : List Spanned) (next : LexItem) (fault : Error)
    (blames : Blames .expression 0 limit taken next fault) : Faults limit taken next fault := by
  cases fault with
  | lex cause => exact blames
  | parse fault =>
    cases fault with
    | unexpectedEndOfInput position =>
      obtain ⟨names, viable, lacking⟩ := blames
      exact ⟨names, viable, not_sentence_of_lacking _ lacking⟩
    | unexpectedToken expected found position =>
      obtain ⟨names, word, viable, _, refuses, accepts, operand⟩ := blames
      refine ⟨names, word, viable, not_viable_of_refuses _ found refuses, ?_, operand⟩
      intro kind member
      cases kind with
      | endOfInput =>
        obtain ⟨rest, tree, derived⟩ := accepts .endOfInput member
        exact absurd rfl (Derives.ne_endOfInput _ _ tree derived .endOfInput (by simp))
      | _ => exact fun token same => accepts token (same ▸ member)
    | invalidAssignmentTarget position =>
      obtain ⟨names, viable, refuses, noTarget⟩ := blames
      exact ⟨names, viable, not_viable_of_refuses _ .assign refuses, noTarget⟩
    | nestingTooDeep bound position =>
      obtain ⟨bounds, viable, exceeds⟩ := blames
      obtain ⟨state, ran⟩ := Reading.run_of_viable _ viable
      have tall := exceeds [] state (Reading.beginsIn_nothing _) (Nat.zero_le _) ran
      exact ⟨bounds, viable, state, ran, tall⟩

private theorem faults_of_leftover (limit : Nat) (taken : List Spanned) (tree : Expr) (item : Spanned)
    (derived : Derives .expression (tokensOf taken) tree) (word : item.token.isEnd = false)
    (ends : Phrase.expression.goesOn tree item.token = false) :
    Faults limit taken (.ok item)
      (.parse (.unexpectedToken [.endOfInput] item.token item.position)) := by
  refine ⟨rfl, word, Phrase.viable_of_derives _ _ tree derived, ?_, ?_, ?_⟩
  · intro viable
    obtain ⟨state, ran⟩ := Reading.run_of_viable _ viable
    obtain ⟨middle, ranTaken, behind⟩ :=
      Reading.run_of_derives .expression _ tree derived [] (Reading.beginsIn_nothing _)
    rw [Reading.run_snoc _ middle _ _ ranTaken,
      Reading.step_behind_expression [] tree middle item.token behind ends (.inr rfl)] at ran
    contradiction
  · intro kind member
    rw [List.mem_singleton.mp member]
    exact ⟨tree, derived⟩
  · intro assign
    rw [assign] at ends
    contradiction

namespace Parser

theorem sentence_meets (stream : TokenStream) (top : stream.depth = 0) :
    sentence.Meets stream
      (fun tree after => ∃ words position, Derives .expression (tokensOf words) tree ∧
        stream.supply = words.map Except.ok ++ₛ .cons (.ok ⟨.endOfInput, position⟩) after.supply ∧
        tree.height ≤ stream.limit)
      (fun fault _ => ∃ words behind, stream.supply = words.map Except.ok ++ₛ behind ∧
        Faults stream.limit words behind.head fault) := by
  unfold sentence sentenceBy
  refine (expression_reads stream).bind ?_ ?_
  · intro tree now accepted
    obtain ⟨⟨words, derived⟩, ends⟩ := accepted
    have room := derived.room
    rw [top, Nat.zero_add] at room
    refine (advance_meets now).bind ?_ ?_
    · intro item after taken
      obtain ⟨supply, _, _⟩ := taken
      have takes := derived.takes
      rw [supply] at takes
      obtain ⟨token, position⟩ := item
      dsimp only
      split
      · rename_i isEnd
        cases token with
        | endOfInput =>
          apply meets_record
          apply meets_pure
          exact ⟨words, position, derived.derives, takes, room⟩
        | _ => contradiction
      · rename_i notEnd
        apply meets_throw
        refine ⟨words, _, takes, ?_⟩
        have next : now.supply.head = .ok ⟨token, position⟩ := congrArg Stream'.head supply
        exact faults_of_leftover _ _ tree ⟨token, position⟩ derived.derives (Bool.eq_false_iff.mpr notEnd)
          (ends _ next)
    · intro fault after breaks
      obtain ⟨cause, rfl, supply, _⟩ := breaks
      refine ⟨words, _, derived.takes, ?_, Phrase.viable_of_derives _ _ tree derived.derives⟩
      rw [supply]
      rfl
  · intro fault after rejects
    obtain ⟨⟨words, behind, supply, blames⟩, _⟩ := rejects
    rw [top] at blames
    exact ⟨words, behind, supply, faults_of_blames _ _ _ _ blames⟩

end Parser

theorem supply_ofString (source : String) (options : Options) (last : LexItem)
    (items : (Lexer.ofString source).takeRest.1 = (wordsOf source).map Except.ok ++ [last]) :
    ∃ behind, (TokenStream.ofString source options).supply =
      (wordsOf source).map Except.ok ++ₛ .cons last behind := by
  change ∃ behind, (Lexer.ofString source).supply = _
  rw [Lexer.supply, items, Stream'.append_append_stream]
  exact ⟨_, rfl⟩

def itemBehind : List Spanned → LexItem → LexItem
  | [], last => last
  | word :: _, _ => .ok word

theorem run_meets (source : String) (options : Options) (accepts : Expr → TokenStream → Prop)
    (allows : Error → TokenStream → Prop)
    (meets : Parser.sentence.Meets (.ofString source options) accepts allows) :
    ∃ after : TokenStream, (Parse.run source options).log = after.log.toList ∧
      match parseWith source options with
      | .ok tree => accepts tree after
      | .error fault => allows fault after := by
  unfold parseWith Parse.run
  unfold Parser.Meets at meets
  cases ran : Parser.sentence (.ofString source options) with
  | ok tree after => rw [ran] at meets; exact ⟨after, rfl, meets⟩
  | error fault after => rw [ran] at meets; exact ⟨after, rfl, meets⟩

/-- What a parse answers with, or which item it stops at and why. -/
theorem parseWith_outcome (source : String) (options : Options) :
    ∃ last : LexItem, (∀ word ∈ wordsOf source, word.token.isEnd = false) ∧ last.isLast = true ∧
      tokenize source = last.map (fun item => wordsOf source ++ [item]) ∧
      match parseWith source options with
      | .ok tree => (∃ position, last = .ok ⟨.endOfInput, position⟩) ∧
          Derives .expression (tokensOf (wordsOf source)) tree ∧ tree.height ≤ options.maxDepth
      | .error fault => ∃ taken between, wordsOf source = taken ++ between ∧
          Faults options.maxDepth taken (itemBehind between last) fault := by
  obtain ⟨last, items, allWords, isLast, tokenized⟩ := wordsOf_spec source
  refine ⟨last, allWords, isLast, tokenized, ?_⟩
  obtain ⟨behind, supply⟩ := supply_ofString source options last items
  obtain ⟨after, _, outcome⟩ := run_meets source options _ _
    (Parser.sentence_meets (.ofString source options) rfl)
  cases parsed : parseWith source options with
  | ok tree =>
    rw [parsed] at outcome
    obtain ⟨words, position, derived, taken, room⟩ := outcome
    have allTaken := word_of_viable words (Phrase.viable_of_derives _ _ tree derived)
    obtain ⟨between, split, rest⟩ := append_split _ words last behind _ isLast allTaken
      (supply.symm.trans taken)
    cases between with
    | nil =>
      have ends : last = .ok ⟨.endOfInput, position⟩ := (congrArg Stream'.head rest).symm
      rw [split, List.append_nil]
      exact ⟨⟨position, ends⟩, derived, room⟩
    | cons word between =>
      have isWord := allWords word (by rw [split]; simp)
      have heads : word = ⟨.endOfInput, position⟩ := Except.ok.inj (congrArg Stream'.head rest).symm
      rw [heads] at isWord
      contradiction
  | error fault =>
    rw [parsed] at outcome
    obtain ⟨words, rest, taken, faults⟩ := outcome
    obtain ⟨between, split, behindSplit⟩ := append_split _ words last behind rest isLast
      (word_of_viable words faults.viable) (supply.symm.trans taken)
    refine ⟨words, between, split, ?_⟩
    have next : rest.head = itemBehind between last := by
      rw [behindSplit]
      cases between <;> rfl
    rw [← next]
    exact faults

/-- Whether an error fits the text: it names the first token behind which no
expression goes on, or the last item where there is no such token, or the limit. -/
def Explains (source : String) (limit : Nat) : Error → Prop
  | .lex cause => tokenize source = .error cause ∧ Viable (tokensOf (wordsOf source))
  | .parse (.unexpectedEndOfInput position) =>
    tokenize source = .ok (wordsOf source ++ [⟨.endOfInput, position⟩]) ∧
      Viable (tokensOf (wordsOf source)) ∧ ¬ Sentence (tokensOf (wordsOf source))
  | .parse (.unexpectedToken expected found position) =>
    ∃ before behind, wordsOf source = before ++ ⟨found, position⟩ :: behind ∧
      Viable (tokensOf before) ∧ ¬ Viable (tokensOf before ++ [found]) ∧
      ∀ kind ∈ expected, Admits (tokensOf before) kind
  | .parse (.invalidAssignmentTarget _) =>
    ∃ before place behind, wordsOf source = before ++ ⟨.assign, place⟩ :: behind ∧
      Viable (tokensOf before) ∧ ¬ Viable (tokensOf before ++ [.assign])
  | .parse (.nestingTooDeep bound _) =>
    bound = limit ∧ limit < (wordsOf source).length ∧
      ∀ tree, Derives .expression (tokensOf (wordsOf source)) tree → limit < tree.height

theorem itemBehind_word (between : List Spanned) (last : LexItem) (item : Spanned)
    (isLast : last.isLast = true) (names : itemBehind between last = .ok item)
    (isWord : item.token.isEnd = false) : ∃ behind, between = item :: behind := by
  cases between with
  | nil =>
    rw [show last = .ok item from names, LexItem.isLast, isWord] at isLast
    contradiction
  | cons word behind =>
    cases names
    exact ⟨behind, rfl⟩

private theorem itemBehind_last (between : List Spanned) (last item : LexItem)
    (allWords : ∀ word ∈ between, word.token.isEnd = false) (names : itemBehind between last = item)
    (isLast : item.isLast = true) : between = [] ∧ last = item := by
  cases between with
  | nil => exact ⟨rfl, names⟩
  | cons word behind =>
    have isWord := allWords word (List.mem_cons_self ..)
    rw [← names, itemBehind, LexItem.isLast, isWord] at isLast
    contradiction

private theorem explains_of_faults (source : String) (limit : Nat) (taken between : List Spanned)
    (last : LexItem) (fault : Error) (split : wordsOf source = taken ++ between)
    (allWords : ∀ word ∈ wordsOf source, word.token.isEnd = false) (isLast : last.isLast = true)
    (tokenized : tokenize source = last.map (fun item => wordsOf source ++ [item]))
    (faults : Faults limit taken (itemBehind between last) fault) :
    Explains source limit fault := by
  have wordsBetween : ∀ word ∈ between, word.token.isEnd = false := by
    intro word inside
    exact allWords word (split ▸ List.mem_append_right taken inside)
  cases fault with
  | lex cause =>
    obtain ⟨names, viable⟩ := faults
    obtain ⟨rfl, rfl⟩ := itemBehind_last between last _ wordsBetween names rfl
    rw [List.append_nil] at split
    exact ⟨tokenized, split ▸ viable⟩
  | parse fault =>
    cases fault with
    | unexpectedEndOfInput position =>
      obtain ⟨names, viable, notSentence⟩ := faults
      obtain ⟨rfl, rfl⟩ := itemBehind_last between last _ wordsBetween names rfl
      rw [List.append_nil] at split
      exact ⟨tokenized, split ▸ viable, split ▸ notSentence⟩
    | unexpectedToken expected found position =>
      obtain ⟨names, isWord, viable, notViable, admits, _⟩ := faults
      obtain ⟨behind, rfl⟩ := itemBehind_word between last ⟨found, position⟩ isLast names isWord
      exact ⟨taken, behind, split, viable, notViable, admits⟩
    | invalidAssignmentTarget position =>
      obtain ⟨⟨place, names⟩, viable, notViable, _⟩ := faults
      obtain ⟨behind, rfl⟩ := itemBehind_word between last ⟨.assign, place⟩ isLast names rfl
      exact ⟨taken, place, behind, split, viable, notViable⟩
    | nestingTooDeep bound position =>
      have long := faults.lt_length
      obtain ⟨bounds, _, state, ran, tall⟩ := faults
      refine ⟨bounds, ?_, ?_⟩
      · rw [split, List.length_append]
        omega
      · intro tree derived
        rw [split, tokensOf, List.map_append] at derived
        exact Nat.lt_of_lt_of_le tall (Reading.reach_le_height _ _ tree state derived ran)

theorem parseWith_ok (source : String) (options : Options) (tree : Expr)
    (parsed : parseWith source options = .ok tree) :
    (∃ position, tokenize source = .ok (wordsOf source ++ [⟨.endOfInput, position⟩])) ∧
      Derives .expression (tokensOf (wordsOf source)) tree ∧ tree.height ≤ options.maxDepth := by
  obtain ⟨last, _, _, tokenized, outcome⟩ := parseWith_outcome source options
  rw [parsed] at outcome
  obtain ⟨⟨position, rfl⟩, derived, room⟩ := outcome
  exact ⟨⟨position, tokenized⟩, derived, room⟩

theorem parseWith_error (source : String) (options : Options) (fault : Error)
    (parsed : parseWith source options = .error fault) : Explains source options.maxDepth fault := by
  obtain ⟨last, allWords, isLast, tokenized, outcome⟩ := parseWith_outcome source options
  rw [parsed] at outcome
  obtain ⟨taken, between, split, faults⟩ := outcome
  exact explains_of_faults source options.maxDepth taken between last fault split allWords isLast
    tokenized faults

theorem viable_through (words before behind : List Spanned) (word : Spanned)
    (split : words = before ++ word :: behind) (viable : Viable (tokensOf words)) :
    Viable (tokensOf before ++ [word.token]) := by
  obtain ⟨rest, tree, derived⟩ := viable
  refine ⟨tokensOf behind ++ rest, tree, ?_⟩
  rw [split, tokensOf, List.map_append] at derived
  simpa using derived

theorem fault_of_viable (source : String) (options : Options) (fault : Error)
    (viable : Viable (tokensOf (wordsOf source))) (parsed : parseWith source options = .error fault) :
    (∃ cause, fault = .lex cause ∧ tokenize source = .error cause) ∨
    (∃ position, fault = .parse (.unexpectedEndOfInput position) ∧
      tokenize source = .ok (wordsOf source ++ [⟨.endOfInput, position⟩]) ∧
      ¬ Sentence (tokensOf (wordsOf source))) ∨
    ∃ place, fault = .parse (.nestingTooDeep options.maxDepth place) ∧
      options.maxDepth < (wordsOf source).length ∧
      ∀ tree, Derives .expression (tokensOf (wordsOf source)) tree → options.maxDepth < tree.height := by
  have explains := parseWith_error source options fault parsed
  cases fault with
  | lex cause => exact .inl ⟨cause, rfl, explains.1⟩
  | parse fault =>
    cases fault with
    | unexpectedEndOfInput position => exact .inr (.inl ⟨position, rfl, explains.1, explains.2.2⟩)
    | unexpectedToken expected found place =>
      obtain ⟨before, behind, split, _, notViable, _⟩ := explains
      exact absurd (viable_through _ before behind _ split viable) notViable
    | invalidAssignmentTarget start =>
      obtain ⟨before, place, behind, split, _, notViable⟩ := explains
      exact absurd (viable_through _ before behind _ split viable) notViable
    | nestingTooDeep bound place =>
      obtain ⟨rfl, long, tall⟩ := explains
      exact .inr (.inr ⟨place, rfl, long, tall⟩)

theorem tooDeep_of_sentence (source : String) (options : Options) (position : Position) (tree : Expr)
    (fault : Error) (tokenized : tokenize source = .ok (wordsOf source ++ [⟨.endOfInput, position⟩]))
    (derived : Derives .expression (tokensOf (wordsOf source)) tree)
    (parsed : parseWith source options = .error fault) :
    options.maxDepth < tree.height ∧
      ∃ place, fault = .parse (.nestingTooDeep options.maxDepth place) := by
  have viable := Phrase.viable_of_derives _ _ tree derived
  rcases fault_of_viable source options fault viable parsed with
    ⟨cause, _, broken⟩ | ⟨place, _, _, notSentence⟩ | ⟨place, rfl, _, tall⟩
  · rw [tokenized] at broken
    contradiction
  · exact absurd ⟨tree, derived⟩ notSentence
  · exact ⟨tall tree derived, place, rfl⟩

/-- Tokens of an expression whose tree fits under the limit are read as that tree. -/
theorem parseWith_of_derives (source : String) (options : Options) (position : Position) (tree : Expr)
    (tokenized : tokenize source = .ok (wordsOf source ++ [⟨.endOfInput, position⟩]))
    (derived : Derives .expression (tokensOf (wordsOf source)) tree)
    (room : tree.height ≤ options.maxDepth) : parseWith source options = .ok tree := by
  cases parsed : parseWith source options with
  | ok other =>
    have readDerived := (parseWith_ok source options other parsed).2.1
    rw [Derives.unique _ other tree readDerived derived]
  | error fault =>
    have tall := (tooDeep_of_sentence source options position tree fault tokenized derived parsed).1
    exact absurd room (Nat.not_le_of_lt tall)

section
variable (source : String) (options : Options) (room : (wordsOf source).length ≤ options.maxDepth)
  (viable : Viable (tokensOf (wordsOf source)))
include room viable

theorem parseWith_of_broken (cause : LexError) (tokenized : tokenize source = .error cause) :
    parseWith source options = .error (.lex cause) := by
  cases parsed : parseWith source options with
  | ok tree =>
    obtain ⟨⟨position, complete⟩, _⟩ := parseWith_ok source options tree parsed
    rw [tokenized] at complete
    contradiction
  | error fault =>
    rcases fault_of_viable source options fault viable parsed with
      ⟨other, rfl, same⟩ | ⟨position, rfl, complete, _⟩ | ⟨place, rfl, long, _⟩
    · rw [tokenized] at same
      cases same
      rfl
    · rw [tokenized] at complete
      contradiction
    · exact absurd long (Nat.not_lt_of_le room)

theorem parseWith_of_unfinished (position : Position)
    (tokenized : tokenize source = .ok (wordsOf source ++ [⟨.endOfInput, position⟩]))
    (notSentence : ¬ Sentence (tokensOf (wordsOf source))) :
    parseWith source options = .error (.parse (.unexpectedEndOfInput position)) := by
  cases parsed : parseWith source options with
  | ok tree => exact absurd ⟨tree, (parseWith_ok source options tree parsed).2.1⟩ notSentence
  | error fault =>
    rcases fault_of_viable source options fault viable parsed with
      ⟨cause, rfl, broken⟩ | ⟨other, rfl, same, _⟩ | ⟨place, rfl, long, _⟩
    · rw [tokenized] at broken
      contradiction
    · rw [tokenized] at same
      have items := List.append_cancel_left (Except.ok.inj same)
      cases items
      rfl
    · exact absurd long (Nat.not_lt_of_le room)

end

end ExprLang
