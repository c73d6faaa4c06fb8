/-! Places in a source text: a byte offset together with the line and the column
at which a reader finds it. -/
namespace ExprLang

/-- A place in a text. Offsets count bytes from 0, lines and columns count from 1,
and columns count characters. Places are ordered by their fields in turn. -/
structure Position where
  offset : Nat
  line : Nat
  column : Nat
  deriving DecidableEq, Ord

namespace Position

def start : Position := ⟨0, 1, 1⟩

instance : Inhabited Position := ⟨start⟩

instance : LE Position := leOfOrd

instance : LT Position := ltOfOrd

instance (p q : Position) : Decidable (p ≤ q) :=
  inferInstanceAs (Decidable ((compare p q).isLE = true))

/-- The place after one more character; a newline opens the next line. -/
def advance (p : Position) (c : Char) : Position :=
  if c = '\n' then ⟨p.offset + c.utf8Size, p.line + 1, 1⟩
  else ⟨p.offset + c.utf8Size, p.line, p.column + 1⟩

def after (p : Position) (text : List Char) : Position :=
  text.foldl advance p

/-- The place after a stretch of text that is all counted on the line of `p`, a
newline as one more column. -/
def along (p : Position) (text : List Char) : Position :=
  text.foldl (fun q c => ⟨q.offset + c.utf8Size, q.line, q.column + 1⟩) p

def sort (places : List Position) : List Position :=
  places.mergeSort (fun p q => decide (p ≤ q))

def render (p : Position) : String :=
  toString p.line ++ ":" ++ toString p.column

end Position

end ExprLang
