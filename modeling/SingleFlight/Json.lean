import SingleFlight.Json.Tree

/-!
JSON values: what a text of the right form means.

Beyond its form a text must have strings that are texts, numbers in the range of a floating-point
number, and no more than 127 arrays and objects inside one another.  Of members with one name the
last counts.
-/

namespace SingleFlight
namespace Json

/-- An integer of at most 64 bits, or any other number. -/
inductive Number where
  | integer (i : Int)
  | real
deriving DecidableEq, Repr

inductive Value where
  | null
  | truth (b : Bool)
  | number (n : Number)
  | text (s : String)
  | array (items : List Value)
  | object (members : List (String × Value))

/-- The bytes of a character. -/
def bytesOf (c : Char) : List UInt8 := c.toString.toUTF8.toList

/-- The bytes that stand between two quotes, with the escapes replaced.  Escapes of surrogates must
come in pairs. -/
def unescape : List UInt8 → Option (List UInt8)
  | [] => some []
  | 92 :: 117 :: a :: b :: c :: d :: 92 :: 117 :: p :: q :: r :: s :: rest => do
    let n ← Tree.hexNumber? a b c d
    if 0xD800 ≤ n ∧ n < 0xDC00 then
      let m ← Tree.hexNumber? p q r s
      if 0xDC00 ≤ m ∧ m < 0xE000 then
        let bytes ← unescape rest
        some (bytesOf (Char.ofNat (0x10000 + (n - 0xD800) * 0x400 + (m - 0xDC00))) ++ bytes)
      else none
    else if 0xDC00 ≤ n ∧ n < 0xE000 then none
    else
      let bytes ← unescape (92 :: 117 :: p :: q :: r :: s :: rest)
      some (bytesOf (Char.ofNat n) ++ bytes)
  | 92 :: 117 :: a :: b :: c :: d :: rest => do
    let n ← Tree.hexNumber? a b c d
    if 0xD800 ≤ n ∧ n < 0xE000 then none
    else
      let bytes ← unescape rest
      some (bytesOf (Char.ofNat n) ++ bytes)
  | 92 :: e :: rest => do
    let b ← Tree.escape? e
    let bytes ← unescape rest
    some (b :: bytes)
  | b :: rest => (unescape rest).map (b :: ·)

/-- The text that stands between two quotes, if its bytes are one. -/
def textOf? (raw : List UInt8) : Option String := do
  String.fromUTF8? ⟨(← unescape raw).toArray⟩

def numberOfDigits (ds : List Nat) : Nat := ds.foldl (fun n d => 10 * n + d) 0

/-- From here on a number rounds to no floating-point number. -/
def realBound : Nat := Nat.pow 2 1024 - Nat.pow 2 970

/-- The integer that is written without point and exponent.  A zero with a minus is none. -/
def Numeral.integer? (n : Numeral) : Option Int :=
  match n.fraction, n.exponent with
  | none, none =>
    let i := numberOfDigits n.whole
    if n.negative then (if i = 0 then none else some (-(i : Int))) else some i
  | _, _ => none

/-- Whether a number is too great for a floating-point number. -/
def Numeral.isTooGreat (n : Numeral) : Bool :=
  let fraction := n.fraction.getD []
  let significand := numberOfDigits (n.whole ++ fraction)
  let exponent : Int := match n.exponent with
    | some (true, ds) => -(numberOfDigits ds : Int)
    | some (false, ds) => numberOfDigits ds
    | none => 0
  let shift := exponent - fraction.length
  if significand = 0 then false
  else if 400 < shift then true
  else if 0 ≤ shift then realBound ≤ significand * Nat.pow 10 shift.toNat
  else
    let places := min (-shift).toNat (n.whole.length + fraction.length)
    realBound * Nat.pow 10 places ≤ significand

def Numeral.number? (n : Numeral) : Option Number :=
  match n.integer? with
  | some i =>
    if -9223372036854775808 ≤ i ∧ i ≤ 18446744073709551615 then some (.integer i)
    else if n.isTooGreat then none else some .real
  | none => if n.isTooGreat then none else some .real

namespace Value

mutual

/-- What a tree means, with room for so many levels of arrays and objects. -/
def ofTree? (room : Nat) : Tree → Option Value
  | .null => some null
  | .truth b => some (truth b)
  | .number n => n.number?.map number
  | .text raw => (textOf? raw).map text
  | .array items => if room ≤ 1 then none else (ofItems? (room - 1) items).map array
  | .object members => if room ≤ 1 then none else (ofMembers? (room - 1) members).map object

def ofItems? (room : Nat) : List Tree → Option (List Value)
  | [] => some []
  | t :: ts =>
    match ofTree? room t with
    | some v => (ofItems? room ts).map (v :: ·)
    | none => none

def ofMembers? (room : Nat) : List (List UInt8 × Tree) → Option (List (String × Value))
  | [] => some []
  | (key, t) :: ms =>
    match textOf? key, ofTree? room t with
    | some name, some v => (ofMembers? room ms).map ((name, v) :: ·)
    | _, _ => none

end

def read (bytes : List UInt8) : Option Value := (Tree.read bytes).bind (ofTree? 128)

/-- The member of an object with this name, the last of several. -/
def get? (v : Value) (name : String) : Option Value :=
  match v with
  | object members => members.reverse.lookup name
  | _ => none

def text? : Value → Option String
  | text s => some s
  | _ => none

end Value
end Json
end SingleFlight
