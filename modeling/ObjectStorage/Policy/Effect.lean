/-!
# Effects

What a statement does. An unknown word is kept as it is, so that a newer document still reads.
-/
namespace ObjectStorage

inductive Effect where
  | allow
  | deny
  | other (word : String)
deriving DecidableEq, Repr

namespace Effect

def word : Effect → String
  | allow => "Allow"
  | deny => "Deny"
  | other w => w

def ofWord (w : String) : Effect :=
  if w = "Allow" then allow else if w = "Deny" then deny else other w

theorem word_ofWord (w : String) : (ofWord w).word = w := by
  unfold ofWord
  split
  · rename_i h; rw [h]; rfl
  · split
    · rename_i h; rw [h]; rfl
    · rfl

end Effect

end ObjectStorage
