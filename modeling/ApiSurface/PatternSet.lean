import ApiSurface.PatternReader
import ApiSurface.SurfaceError

/-!
# Sets of patterns

A set of patterns, of which one must match the whole of a text.
-/

namespace ApiSurface

structure PatternSet where
  patterns : List Pattern
  deriving Inhabited

namespace PatternSet

def empty : PatternSet := ⟨[]⟩

/-- The pattern between the ends of the text. The pattern is read as it stands there, so that it
may close the group around it. -/
def anchored (pattern : String) : String := "^(?:" ++ pattern ++ ")$"

def add (set : PatternSet) (pattern : String) : Except SurfaceError PatternSet :=
  match Pattern.parse? (anchored pattern) with
  | some p => .ok ⟨set.patterns ++ [p]⟩
  | none => .error (.invalidPattern pattern)

def contains (set : PatternSet) (text : String) : Bool :=
  set.patterns.any fun p => p.matchesIn text

def size (set : PatternSet) : Nat := set.patterns.length

def isEmpty (set : PatternSet) : Bool := set.patterns.isEmpty

end PatternSet

end ApiSurface
