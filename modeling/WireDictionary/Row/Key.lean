import WireDictionary.Numeral

/-! Keys of two numbers. They tell apart the rows that belong to something else: the values of an
enum, the members of a struct. -/

namespace WireDictionary

/-- A key made of the number of an owner and a number within that owner. -/
structure PairKey where
  id : Int64
  sub : Int64
  deriving DecidableEq, Repr

namespace PairKey

def text (k : PairKey) : String := Numeral.decimal k.id ++ "." ++ Numeral.decimal k.sub

/-- Pairs are ordered by owner, then by the number within the owner. -/
def le (a b : PairKey) : Bool := a.id < b.id || (a.id == b.id && a.sub ≤ b.sub)

/-- Puts a key into an ascending list, unless it is there. -/
def insertSorted (k : PairKey) : List PairKey → List PairKey
  | [] => [k]
  | l :: rest =>
    if k = l then l :: rest else if k.le l then k :: l :: rest else l :: insertSorted k rest

def sorted (keys : List PairKey) : List PairKey := keys.foldr insertSorted []

end PairKey

end WireDictionary
