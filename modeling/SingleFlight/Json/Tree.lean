/-!
The form of JSON texts.

A `Tree` is a text taken apart, with its strings and numbers as they were written.  Reading asks
only for the form: what stands between two quotes need not be a text yet, and a number may be of any
size.  Texts are read as bytes, and what is read is taken off their front.
-/

namespace SingleFlight
namespace Json

/-- A number as it is written.  Digits are numbers below ten, the most significant first. -/
structure Numeral where
  negative : Bool
  whole : List Nat
  fraction : Option (List Nat)
  /-- The sign, true for a minus, and the digits of the exponent. -/
  exponent : Option (Bool × List Nat)
deriving DecidableEq, Repr

/-- A string is kept as the bytes between its quotes. -/
inductive Tree where
  | null
  | truth (b : Bool)
  | number (n : Numeral)
  | text (raw : List UInt8)
  | array (items : List Tree)
  | object (members : List (List UInt8 × Tree))

namespace Tree

def isBlank (b : UInt8) : Bool := b == 32 || b == 9 || b == 10 || b == 13

def skipBlanks (bytes : List UInt8) : List UInt8 := bytes.dropWhile isBlank

def digit? (b : UInt8) : Option Nat :=
  if 48 ≤ b ∧ b ≤ 57 then some (b.toNat - 48) else none

def hexDigit? (b : UInt8) : Option Nat :=
  if 48 ≤ b ∧ b ≤ 57 then some (b.toNat - 48)
  else if 65 ≤ b ∧ b ≤ 70 then some (b.toNat - 55)
  else if 97 ≤ b ∧ b ≤ 102 then some (b.toNat - 87)
  else none

/-- The number of a character escape of four hexadecimal digits. -/
def hexNumber? (a b c d : UInt8) : Option Nat := do
  some ((((← hexDigit? a) * 16 + (← hexDigit? b)) * 16 + (← hexDigit? c)) * 16 + (← hexDigit? d))

/-- The byte that a one-letter escape stands for. -/
def escape? (b : UInt8) : Option UInt8 :=
  if b = 34 then some 34
  else if b = 92 then some 92
  else if b = 47 then some 47
  else if b = 98 then some 8
  else if b = 102 then some 12
  else if b = 110 then some 10
  else if b = 114 then some 13
  else if b = 116 then some 9
  else none

/-- The bytes up to the closing quote, and what follows it. -/
def readRaw : List UInt8 → Option (List UInt8 × List UInt8)
  | [] => none
  | b :: rest =>
    if b = 34 then some ([], rest)
    else if b = 92 then
      match rest with
      | [] => none
      | e :: rest =>
        if e = 117 then
          match rest with
          | p :: q :: r :: s :: rest =>
            match hexNumber? p q r s with
            | some _ =>
              (readRaw rest).map fun (raw, rest) =>
                (92 :: 117 :: p :: q :: r :: s :: raw, rest)
            | none => none
          | _ => none
        else
          match escape? e with
          | some _ => (readRaw rest).map fun (raw, rest) => (92 :: e :: raw, rest)
          | none => none
    else if b < 32 then none
    else (readRaw rest).map fun (raw, rest) => (b :: raw, rest)

/-- The digits at the front. -/
def readDigits : List UInt8 → List Nat × List UInt8
  | [] => ([], [])
  | b :: rest =>
    match digit? b with
    | some d => let (ds, rest) := readDigits rest; (d :: ds, rest)
    | none => ([], b :: rest)

/-- At least one digit. -/
def readSomeDigits (bytes : List UInt8) : Option (List Nat × List UInt8) :=
  match readDigits bytes with
  | ([], _) => none
  | found => some found

/-- The part after a point, if there is a point. -/
def readFraction : List UInt8 → Option (Option (List Nat) × List UInt8)
  | 46 :: rest => (readSomeDigits rest).map fun (ds, rest) => (some ds, rest)
  | bytes => some (none, bytes)

/-- The exponent, if there is one. -/
def readExponent : List UInt8 → Option (Option (Bool × List Nat) × List UInt8)
  | b :: rest =>
    if b = 69 || b = 101 then
      let (negative, rest) := match rest with
        | 43 :: rest => (false, rest)
        | 45 :: rest => (true, rest)
        | rest => (false, rest)
      (readSomeDigits rest).map fun (ds, rest) => (some (negative, ds), rest)
    else some (none, b :: rest)
  | [] => some (none, [])

/-- A number without its sign.  No digit may follow a leading zero. -/
def readNumeral (negative : Bool) (bytes : List UInt8) : Option (Numeral × List UInt8) := do
  let (whole, rest) ← readSomeDigits bytes
  if whole.head? = some 0 ∧ whole ≠ [0] then none
  let (fraction, rest) ← readFraction rest
  let (exponent, rest) ← readExponent rest
  some ({ negative := negative, whole := whole, fraction := fraction, exponent := exponent }, rest)

/-- Take a word off the front. -/
def readWord (word : List UInt8) (bytes : List UInt8) : Option (List UInt8) :=
  if word.isPrefixOf bytes then some (bytes.drop word.length) else none

mutual

/-- A value, with blanks before it.  Each step uses up fuel, of which a text needs no more than it
has bytes. -/
def readValue : Nat → List UInt8 → Option (Tree × List UInt8)
  | 0, _ => none
  | fuel + 1, bytes =>
    match skipBlanks bytes with
    | [] => none
    | b :: rest =>
      if b = 110 then (readWord "ull".toUTF8.toList rest).map (null, ·)
      else if b = 116 then (readWord "rue".toUTF8.toList rest).map (truth true, ·)
      else if b = 102 then (readWord "alse".toUTF8.toList rest).map (truth false, ·)
      else if b = 34 then (readRaw rest).map fun (raw, rest) => (text raw, rest)
      else if b = 45 then (readNumeral true rest).map fun (n, rest) => (number n, rest)
      else if b = 91 then
        match skipBlanks rest with
        | 93 :: rest => some (array [], rest)
        | rest => (readItems fuel rest).map fun (items, rest) => (array items, rest)
      else if b = 123 then
        match skipBlanks rest with
        | 125 :: rest => some (object [], rest)
        | rest => (readMembers fuel rest).map fun (members, rest) => (object members, rest)
      else (readNumeral false (b :: rest)).map fun (n, rest) => (number n, rest)

/-- The items of an array that has some, up to its bracket. -/
def readItems : Nat → List UInt8 → Option (List Tree × List UInt8)
  | 0, _ => none
  | fuel + 1, bytes =>
    match readValue fuel bytes with
    | none => none
    | some (item, rest) =>
      match skipBlanks rest with
      | 44 :: rest => (readItems fuel rest).map fun (items, rest) => (item :: items, rest)
      | 93 :: rest => some ([item], rest)
      | _ => none

/-- The members of an object that has some, up to its brace. -/
def readMembers : Nat → List UInt8 → Option (List (List UInt8 × Tree) × List UInt8)
  | 0, _ => none
  | fuel + 1, bytes =>
    match skipBlanks bytes with
    | 34 :: rest =>
      match readRaw rest with
      | none => none
      | some (key, rest) =>
        match skipBlanks rest with
        | 58 :: rest =>
          match readValue fuel rest with
          | none => none
          | some (item, rest) =>
            match skipBlanks rest with
            | 44 :: rest =>
              (readMembers fuel rest).map fun (members, rest) => ((key, item) :: members, rest)
            | 125 :: rest => some ([(key, item)], rest)
            | _ => none
        | _ => none
    | _ => none

end

/-- A text that holds one value and nothing else but blanks. -/
def read (bytes : List UInt8) : Option Tree :=
  match readValue (2 * bytes.length + 1) bytes with
  | some (tree, rest) => if (skipBlanks rest).isEmpty then some tree else none
  | none => none

end Tree
end Json
end SingleFlight
