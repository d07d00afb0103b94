/-!
# Machine words

Numbers that fit into 64 bits, without and with sign, and powers of two and ten.
-/

namespace DataSchema

/-- How many unsigned words there are, the 64th power of two. -/
def wordCount : Nat := 0x10000000000000000

/-- How many signed words are negative, the 63rd power of two. -/
def signedCount : Nat := 0x8000000000000000

/-- Whether an integer is a signed word. -/
def isSignedWord (i : Int) : Bool := -(signedCount : Int) ≤ i && i < signedCount

def twoTo (exponent : Nat) : Nat := Nat.pow 2 exponent

def tenTo (exponent : Nat) : Nat := Nat.pow 10 exponent

end DataSchema
