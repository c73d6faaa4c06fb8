/-! The settings of a parse. -/
namespace ExprLang

/-- How a text is parsed. No tree taller than `maxDepth` is built. -/
structure Options where
  maxDepth : Nat := 128
  deriving DecidableEq

namespace Options

def standard : Options := {}

instance : Inhabited Options := ⟨standard⟩

def withMaxDepth (options : Options) (maxDepth : Nat) : Options :=
  { options with maxDepth }

end Options

end ExprLang
