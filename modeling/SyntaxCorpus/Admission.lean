/-
SyntaxCorpus.Admission — which trees a batch takes, by their numbers of nodes.
-/
namespace SyntaxCorpus

/-- Whether a tree is taken. -/
inductive Admission
  | accept
  | tooFew
  | tooMany
  deriving DecidableEq

namespace Admission

/-- The decision on a tree of `count` nodes; both bounds are included. A tree
that misses both bounds has too few nodes. -/
def ofCount (count : Nat) (least greatest : Int) : Admission :=
  if (count : Int) < least then .tooFew
  else if greatest < count then .tooMany
  else .accept

/-- Whether the tree is taken. -/
def isAccepted (a : Admission) : Bool := a == .accept

/-- The decision in words. -/
def reason : Admission → String
  | accept => "accepted"
  | tooFew => "too few nodes"
  | tooMany => "too many nodes"

end Admission
end SyntaxCorpus
