import Mathlib.Data.Nat.Digits.Lemmas
import SingleFlight.Token.Jwt

/-!
Claims as they are written, and what is read of them.

The claims of a token may hold anything besides the expiry, in any order and any layout.  `claims`
is the shortest way to write them, with nothing but the expiry.  Every second of 64 bits with a sign
can be written so and is read back (`expiry?_claims`), and no other is ever read
(`bounds_of_expiry?`).
-/

namespace SingleFlight
namespace Token
namespace Jwt

open Json (numberOfDigits Numeral Tree)

/-! ## Numbers -/

/-- The decimal digits of a number, the most significant first. -/
def digits (n : Nat) : List Nat := if n = 0 then [0] else (Nat.digits 10 n).reverse

/-- A digit as it is written. -/
def digitByte (d : Nat) : UInt8 := UInt8.ofNat (48 + d)

/-- An integer as it is written. -/
def decimal (i : Int) : List UInt8 :=
  (if i < 0 then [45] else []) ++ (digits i.natAbs).map digitByte

/-- An integer, taken apart as it is written. -/
def numeral (i : Int) : Numeral :=
  { negative := decide (i < 0), whole := digits i.natAbs, fraction := none, exponent := none }

variable {n d : Nat} {i : Int} {rest : List UInt8}

theorem lt_ten_of_mem_digits (h : d ∈ digits n) : d < 10 := by
  unfold digits at h
  split at h
  · rw [List.mem_singleton.1 h]
    decide
  · exact Nat.digits_lt_base (by decide) (List.mem_reverse.1 h)

theorem numberOfDigits_digits : numberOfDigits (digits n) = n := by
  unfold digits
  split
  next zero => rw [zero]; rfl
  next =>
    have value := Nat.ofDigits_digits 10 n
    rw [Nat.ofDigits_eq_foldr] at value
    rw [numberOfDigits, List.foldl_reverse]
    simpa [Nat.add_comm] using value

/-- No digit follows a zero at the front. -/
theorem exists_digits_eq_cons (n : Nat) :
    ∃ d ds, digits n = d :: ds ∧ (d = 0 → ds = []) := by
  unfold digits
  split
  next => exact ⟨0, [], rfl, fun _ => rfl⟩
  next nonzero =>
    have some_digits : Nat.digits 10 n ≠ [] := Nat.digits_ne_nil_iff_ne_zero.2 nonzero
    refine ⟨(Nat.digits 10 n).getLast some_digits, (Nat.digits 10 n).dropLast.reverse, ?_,
      fun zero => absurd zero (Nat.getLast_digit_ne_zero 10 nonzero)⟩
    rw [← List.reverse_concat, List.dropLast_append_getLast]

theorem integer?_numeral : (numeral i).integer? = some i := by
  rw [numeral, Numeral.integer?]
  simp only [numberOfDigits_digits, decide_eq_true_eq]
  split_ifs with negative zero
  · omega
  · congr 1; omega
  · congr 1; omega

/-! ## Reading them -/

theorem digit?_digitByte (h : d < 10) : Tree.digit? (digitByte d) = some d := by
  have all : ∀ d < 10, Tree.digit? (digitByte d) = some d := by decide
  exact all d h

/-- Digits are read up to a byte that is none. -/
theorem readDigits_append {ds : List Nat} (small : ∀ d ∈ ds, d < 10)
    (stop : Tree.readDigits rest = ([], rest)) :
    Tree.readDigits (ds.map digitByte ++ rest) = (ds, rest) := by
  induction ds with
  | nil => exact stop
  | cons d ds ih =>
    rw [List.map_cons, List.cons_append, Tree.readDigits, digit?_digitByte (small d (by simp)),
      ih fun d mem => small d (by simp [mem])]

/-- An integer is read up to the brace after it. -/
theorem readNumeral_digits (i : Int) (rest : List UInt8) :
    Tree.readNumeral (decide (i < 0)) ((digits i.natAbs).map digitByte ++ 125 :: rest) =
      some (numeral i, 125 :: rest) := by
  have read : Tree.readDigits ((digits i.natAbs).map digitByte ++ 125 :: rest) =
      (digits i.natAbs, 125 :: rest) :=
    readDigits_append (fun _ mem => lt_ten_of_mem_digits mem) rfl
  obtain ⟨d, ds, hdigits, alone⟩ := exists_digits_eq_cons i.natAbs
  have found : Tree.readSomeDigits ((digits i.natAbs).map digitByte ++ 125 :: rest) =
      some (digits i.natAbs, 125 :: rest) := by
    rw [Tree.readSomeDigits, read, hdigits]
  have whole : ¬ ((digits i.natAbs).head? = some 0 ∧ digits i.natAbs ≠ [0]) := by
    rw [hdigits]
    rintro ⟨zero, more⟩
    obtain rfl : d = 0 := by simpa using zero
    exact more (by rw [alone rfl])
  simp only [Tree.readNumeral, found, Option.bind_eq_bind, Option.bind_some, if_neg whole]
  rfl

/-- A digit is no blank, and no value but a number begins with it. -/
theorem digitByte_plain (h : d < 10) : Tree.isBlank (digitByte d) = false ∧
    ∀ b ∈ [110, 116, 102, 34, 45, 91, 123], digitByte d ≠ b := by
  have all : ∀ d < 10, Tree.isBlank (digitByte d) = false ∧
      ∀ b ∈ [110, 116, 102, 34, 45, 91, 123], digitByte d ≠ b := by decide +kernel
  exact all d h

theorem readValue_decimal (fuel : Nat) (i : Int) (rest : List UInt8) :
    Tree.readValue (fuel + 1) (decimal i ++ 125 :: rest) =
      some (.number (numeral i), 125 :: rest) := by
  have read := readNumeral_digits i rest
  rcases Int.lt_or_le i 0 with negative | natural
  · rw [decide_eq_true negative] at read
    rw [decimal, if_pos negative]
    simp [Tree.readValue, Tree.skipBlanks, Tree.isBlank, read]
  · rw [decide_eq_false (Int.not_lt.2 natural)] at read
    obtain ⟨d, ds, hdigits, -⟩ := exists_digits_eq_cons i.natAbs
    obtain ⟨unblank, others⟩ := digitByte_plain (d := d)
      (lt_ten_of_mem_digits (n := i.natAbs) (by rw [hdigits]; exact .head _))
    rw [decimal, if_neg (Int.not_lt.2 natural)]
    rw [hdigits] at read ⊢
    simp only [List.map_cons, List.nil_append, List.cons_append] at read ⊢
    simp [Tree.readValue, Tree.skipBlanks, unblank, others, read]

/-! ## Claims -/

/-- The claims with nothing but the expiry. -/
def claims (expiry : Int) : List UInt8 :=
  "\x7b\"exp\":".toUTF8.toList ++ decimal expiry ++ "\x7d".toUTF8.toList

theorem claims_eq (expiry : Int) :
    claims expiry = 123 :: 34 :: 101 :: 120 :: 112 :: 34 :: 58 :: (decimal expiry ++ [125]) := by
  have front : "\x7b\"exp\":".toUTF8.toList = [123, 34, 101, 120, 112, 34, 58] := by decide +kernel
  have back : "\x7d".toUTF8.toList = [125] := by decide +kernel
  rw [claims, front, back]
  rfl

theorem readRaw_quote (rest : List UInt8) : Tree.readRaw (34 :: rest) = some ([], rest) := by
  unfold Tree.readRaw
  rfl

/-- A byte between quotes stands for itself unless it closes them, begins an escape or must be
escaped. -/
theorem readRaw_cons {b : UInt8} (plain : b ≠ 34 ∧ b ≠ 92 ∧ ¬ b < 32) (rest : List UInt8) :
    Tree.readRaw (b :: rest) = (Tree.readRaw rest).map fun (raw, rest) => (b :: raw, rest) := by
  conv_lhs => unfold Tree.readRaw
  simp only [if_neg plain.1, if_neg plain.2.1, if_neg plain.2.2]

theorem skipBlanks_cons {b : UInt8} (unblank : Tree.isBlank b = false) (rest : List UInt8) :
    Tree.skipBlanks (b :: rest) = b :: rest := by
  simp [Tree.skipBlanks, unblank]

theorem readMembers_expiry (fuel : Nat) (expiry : Int) :
    Tree.readMembers (fuel + 2)
        (34 :: 101 :: 120 :: 112 :: 34 :: 58 :: (decimal expiry ++ [125])) =
      some ([([101, 120, 112], .number (numeral expiry))], []) := by
  have name : Tree.readRaw (101 :: 120 :: 112 :: 34 :: 58 :: (decimal expiry ++ [125])) =
      some ([101, 120, 112], 58 :: (decimal expiry ++ [125])) := by
    rw [readRaw_cons (by decide), readRaw_cons (by decide), readRaw_cons (by decide),
      readRaw_quote]
    rfl
  have value := readValue_decimal fuel expiry []
  rw [Tree.readMembers, skipBlanks_cons (by decide)]
  simp only [name, skipBlanks_cons (b := 58) (by decide), value,
    skipBlanks_cons (b := 125) (by decide)]

theorem read_claims (expiry : Int) :
    Tree.read (claims expiry) = some (.object [([101, 120, 112], .number (numeral expiry))]) := by
  -- The object, its members and the number take a step each.
  obtain ⟨fuel, enough⟩ : ∃ fuel, 2 * (claims expiry).length + 1 = fuel + 3 :=
    ⟨2 * (claims expiry).length - 2, by rw [claims_eq]; simp⟩
  have members := readMembers_expiry fuel expiry
  have nothing : Tree.skipBlanks [] = [] := rfl
  rw [Tree.read, enough, claims_eq, Tree.readValue, skipBlanks_cons (by decide)]
  simp [skipBlanks_cons (b := 34) (by decide), members, nothing]

/-- What the written claims say. -/
theorem expiry?_claims {expiry : Int} (fits : Instant.saturate expiry = expiry) :
    expiry? (claims expiry) = some expiry := by
  have name : Json.textOf? [101, 120, 112] = some "exp" := rfl
  rw [expiry?, read_claims]
  simp [claim?, name, second?, integer?_numeral, fits]

/-! ## Whatever is read -/

theorem bounds_of_second? {item : Tree} {expiry : Int} (h : second? item = some expiry) :
    Instant.saturate expiry = expiry := by
  cases item with
  | number n =>
    rw [second?, Option.filter_eq_some_iff] at h
    simpa using h.2
  | _ => cases h

theorem bounds_of_expiry? {bytes : List UInt8} {expiry : Int} (h : expiry? bytes = some expiry) :
    Instant.saturate expiry = expiry := by
  rw [expiry?] at h
  split at h
  next members _ =>
    simp only [claim?, Option.bind_eq_bind, Option.bind_eq_some_iff] at h
    obtain ⟨named, -, h⟩ := h
    split at h
    next => exact bounds_of_second? h
    next => cases h
  next => exact bounds_of_second? h
  next => cases h

end Jwt
end Token
end SingleFlight
