/-!
Request methods.

A method is written in any case and used in upper case.  It is a token: at least one character, and
each of them a letter, a digit or one of a few signs.
-/

namespace SingleFlight
namespace Http

/-- The characters of a token that are neither letters nor digits. -/
def tokenSigns : List Char := "!#$%&'*+-.^_`|~".toList

def isTokenChar (c : Char) : Bool := c.isAlphanum || tokenSigns.contains c

/-- The upper case of a character, where that consists of ASCII characters.  A few letters outside
ASCII have such an upper case: the sharp s, the dotless i, the long s and the ligatures. -/
def upperAscii? (c : Char) : Option (List Char) :=
  if c.toNat < 128 then some [c.toUpper]
  else match c with
    | 'ß' => some ['S', 'S']
    | 'ı' => some ['I']
    | 'ſ' => some ['S']
    | 'ﬀ' => some ['F', 'F']
    | 'ﬁ' => some ['F', 'I']
    | 'ﬂ' => some ['F', 'L']
    | 'ﬃ' => some ['F', 'F', 'I']
    | 'ﬄ' => some ['F', 'F', 'L']
    | 'ﬅ' => some ['S', 'T']
    | 'ﬆ' => some ['S', 'T']
    | _ => none

/-- The method that a text names. -/
def method? (text : String) : Option String := do
  let upper := (← text.toList.mapM upperAscii?).flatten
  if !upper.isEmpty && upper.all isTokenChar then some (String.ofList upper) else none

end Http
end SingleFlight
