import WireDictionary.Text.Cased
import WireDictionary.Text.LetterTable

/-! Upper and lower case of whole texts. Uppercasing looks at one character at a time; lowercasing
does so too, but for the capital sigma, which has a form of its own at the end of a word. -/

namespace WireDictionary.Text

/-- The entry of an expansion table for `c`, as characters. -/
def expansion? (table : List (Nat × List Nat)) (c : Char) : Option (List Char) :=
  (table.lookup c.toNat).map (·.map Char.ofNat)

def upperOf (c : Char) : List Char :=
  match expansion? upperExpansions c with
  | some cs => cs
  | none => [(CaseRun.find? upperRuns c).getD c]

/-- The lowercase form of one character that does not depend on its neighbours. -/
def lowerOf (c : Char) : List Char :=
  match expansion? lowerExpansions c with
  | some cs => cs
  | none => [(CaseRun.find? lowerRuns c).getD c]

/-- Whether the first character that is not passed over has a case. -/
def meetsCased (cs : List Char) : Bool :=
  match cs.dropWhile isCaseIgnorable with
  | [] => false
  | c :: _ => isCased c

/-- A capital sigma ends its word if a cased letter stands before it, nearest first in `before`,
and none after it. -/
def endsWord (before after : List Char) : Bool :=
  meetsCased before && !meetsCased after

/-- The lowercase form of a text that follows the characters of `before`, nearest first. -/
def lowerAfter (before : List Char) : List Char → List Char
  | [] => []
  | c :: rest =>
    (if c = 'Σ' then [if endsWord before rest then 'ς' else 'σ'] else lowerOf c) ++
      lowerAfter (c :: before) rest

def upper (cs : List Char) : List Char := cs.flatMap upperOf

def lower (cs : List Char) : List Char := lowerAfter [] cs

end WireDictionary.Text
