import Mathlib.Tactic.SplitIfs
import SingleFlight.Base64Url

/-!
Reading accepts exactly what writing makes.

A text in the URL-safe alphabet is read only as the bytes that are written so
(`decode?_eq_some_iff`): no two texts are read as the same bytes, and a text with other bits than
zeros at its end is not read at all.  What is written are the bits of the bytes, in sixes
(`encode_eq_sextets`).
-/

namespace SingleFlight
namespace Base64Url

/-! ## Letters -/

/-- The code point of the letter of a number. -/
def code (n : Nat) : Nat :=
  if n < 26 then n + 65 else if n < 52 then n + 71 else if n < 62 then n - 4
  else if n = 62 then 45 else 95

theorem toNat_letter {n : Nat} (h : n < 64) : (letter n).toNat = code n := by
  have all : ∀ n < 64, (letter n).toNat = code n := by decide +kernel
  exact all n h

theorem value?_letter {n : Nat} (h : n < 64) : value? (letter n) = some n := by
  have all : ∀ n < 64, value? (letter n) = some n := by decide +kernel
  exact all n h

theorem code_of_value? {c : Char} {n : Nat} (h : value? c = some n) :
    n < 64 ∧ c.toNat = code n := by
  unfold value? at h
  dsimp only at h
  unfold code
  split_ifs at h with upper lower digit minus under <;> cases h
  · rw [if_pos (by omega)]; omega
  · rw [if_neg (by omega), if_pos (by omega)]; omega
  · rw [if_neg (by omega), if_neg (by omega), if_pos (by omega)]; omega
  · exact ⟨by decide, by rw [minus]; decide⟩
  · exact ⟨by decide, by rw [under]; decide⟩

theorem value?_eq_some_iff {c : Char} {n : Nat} : value? c = some n ↔ n < 64 ∧ c = letter n := by
  refine ⟨fun h => ?_, fun ⟨hn, hc⟩ => hc ▸ value?_letter hn⟩
  obtain ⟨hn, hcode⟩ := code_of_value? h
  exact ⟨hn, Char.toNat_inj.1 (hcode.trans (toNat_letter hn).symm)⟩

/-! ## Texts -/

theorem ofNat_eq {n : Nat} {b : UInt8} (h : n % 256 = b.toNat) : UInt8.ofNat n = b :=
  UInt8.toNat_inj.1 ((UInt8.toNat_ofNat' ..).trans h)

theorem decode?_encode (bytes : List UInt8) : decode? (encode bytes) = some bytes := by
  induction bytes using encode.induct with
  | case1 => rfl
  | case2 a =>
    have ha := a.toNat_lt
    simp only [encode, decode?]
    rw [value?_letter (by omega), value?_letter (by omega)]
    simp only [Option.bind_eq_bind, Option.bind_some]
    rw [if_pos (by omega), ofNat_eq (b := a) (by omega)]
  | case3 a b =>
    have ha := a.toNat_lt
    have hb := b.toNat_lt
    simp only [encode, decode?]
    rw [value?_letter (by omega), value?_letter (by omega), value?_letter (by omega)]
    simp only [Option.bind_eq_bind, Option.bind_some]
    rw [if_pos (by omega), ofNat_eq (b := a) (by omega), ofNat_eq (b := b) (by omega)]
  | case4 a b c rest ih =>
    have ha := a.toNat_lt
    have hb := b.toNat_lt
    have hc := c.toNat_lt
    simp only [encode, decode?]
    rw [value?_letter (by omega), value?_letter (by omega), value?_letter (by omega),
      value?_letter (by omega), ih]
    simp only [Option.bind_eq_bind, Option.bind_some]
    rw [ofNat_eq (b := a) (by omega), ofNat_eq (b := b) (by omega), ofNat_eq (b := c) (by omega)]

/-- The bits that a byte does not have are those that the letters of the next one show. -/
theorem eq_encode_of_decode? {cs : List Char} {bytes : List UInt8}
    (h : decode? cs = some bytes) : cs = encode bytes := by
  induction cs using decode?.induct generalizing bytes with
  | case1 =>
    cases h
    rfl
  | case2 => cases h
  | case3 p q =>
    simp only [decode?, Option.bind_eq_bind, Option.bind_eq_some_iff] at h
    obtain ⟨i, hp, j, hq, h⟩ := h
    obtain ⟨hi, rfl⟩ := value?_eq_some_iff.1 hp
    obtain ⟨hj, rfl⟩ := value?_eq_some_iff.1 hq
    split at h
    next tail =>
      cases h
      simp only [encode, UInt8.toNat_ofNat', List.cons.injEq, and_true]
      exact ⟨congrArg letter (by omega), congrArg letter (by omega)⟩
    next => cases h
  | case4 p q r =>
    simp only [decode?, Option.bind_eq_bind, Option.bind_eq_some_iff] at h
    obtain ⟨i, hp, j, hq, k, hr, h⟩ := h
    obtain ⟨hi, rfl⟩ := value?_eq_some_iff.1 hp
    obtain ⟨hj, rfl⟩ := value?_eq_some_iff.1 hq
    obtain ⟨hk, rfl⟩ := value?_eq_some_iff.1 hr
    split at h
    next tail =>
      cases h
      simp only [encode, UInt8.toNat_ofNat', List.cons.injEq, and_true]
      exact ⟨congrArg letter (by omega), congrArg letter (by omega), congrArg letter (by omega)⟩
    next => cases h
  | case5 p q r s rest ih =>
    simp only [decode?, Option.bind_eq_bind, Option.bind_eq_some_iff] at h
    obtain ⟨i, hp, j, hq, k, hr, l, hs, more, hrest, h⟩ := h
    obtain ⟨hi, rfl⟩ := value?_eq_some_iff.1 hp
    obtain ⟨hj, rfl⟩ := value?_eq_some_iff.1 hq
    obtain ⟨hk, rfl⟩ := value?_eq_some_iff.1 hr
    obtain ⟨hl, rfl⟩ := value?_eq_some_iff.1 hs
    cases h
    simp only [encode, UInt8.toNat_ofNat', List.cons.injEq]
    exact ⟨congrArg letter (by omega), congrArg letter (by omega), congrArg letter (by omega),
      congrArg letter (by omega), ih hrest⟩

theorem decode?_eq_some_iff {cs : List Char} {bytes : List UInt8} :
    decode? cs = some bytes ↔ cs = encode bytes :=
  ⟨eq_encode_of_decode?, fun h => h ▸ decode?_encode bytes⟩

theorem encode_injective {bytes bytes' : List UInt8} (h : encode bytes = encode bytes') :
    bytes = bytes' :=
  Option.some.inj ((decode?_encode bytes).symm.trans (h ▸ decode?_encode bytes'))

/-! ## What is written -/

theorem exists_letter_of_mem_encode {bytes : List UInt8} {c : Char} (h : c ∈ encode bytes) :
    ∃ n < 64, c = letter n := by
  induction bytes using encode.induct with
  | case1 => cases h
  | case2 a =>
    have ha := a.toNat_lt
    simp only [encode, List.mem_cons, List.not_mem_nil, or_false] at h
    rcases h with rfl | rfl <;> exact ⟨_, by omega, rfl⟩
  | case3 a b =>
    have ha := a.toNat_lt
    have hb := b.toNat_lt
    simp only [encode, List.mem_cons, List.not_mem_nil, or_false] at h
    rcases h with rfl | rfl | rfl <;> exact ⟨_, by omega, rfl⟩
  | case4 a b d rest ih =>
    have ha := a.toNat_lt
    have hb := b.toNat_lt
    have hd := d.toNat_lt
    simp only [encode, List.mem_cons] at h
    rcases h with rfl | rfl | rfl | rfl | h
    · exact ⟨_, by omega, rfl⟩
    · exact ⟨_, by omega, rfl⟩
    · exact ⟨_, by omega, rfl⟩
    · exact ⟨_, by omega, rfl⟩
    · exact ih h

/-- Neither a point nor padding is a letter. -/
theorem not_mem_encode (bytes : List UInt8) : '.' ∉ encode bytes ∧ '=' ∉ encode bytes := by
  have strange : ∀ n < 64, letter n ≠ '.' ∧ letter n ≠ '=' := by decide +kernel
  constructor
  · intro h
    obtain ⟨n, hn, point⟩ := exists_letter_of_mem_encode h
    exact (strange n hn).1 point.symm
  · intro h
    obtain ⟨n, hn, padding⟩ := exists_letter_of_mem_encode h
    exact (strange n hn).2 padding.symm

/-! ## The bits of a text -/

/-- The bits of a byte, the most significant first. -/
def octet (b : UInt8) : List Nat :=
  [128, 64, 32, 16, 8, 4, 2, 1].map fun place => b.toNat / place % 2

/-- The numbers that bits make in sixes, with zeros after the last. -/
def sextets : List Nat → List Nat
  | [] => []
  | [p] => [32 * p]
  | [p, q] => [32 * p + 16 * q]
  | [p, q, r] => [32 * p + 16 * q + 8 * r]
  | [p, q, r, s] => [32 * p + 16 * q + 8 * r + 4 * s]
  | [p, q, r, s, t] => [32 * p + 16 * q + 8 * r + 4 * s + 2 * t]
  | p :: q :: r :: s :: t :: u :: rest =>
    (32 * p + 16 * q + 8 * r + 4 * s + 2 * t + u) :: sextets rest

/-- In sixes a byte falls into parts of six and two bits, of four and four, or of two and six. -/
theorem octet_parts (b : UInt8) : ∃ p q r s t u v w, octet b = [p, q, r, s, t, u, v, w] ∧
    32 * p + 16 * q + 8 * r + 4 * s + 2 * t + u = b.toNat / 4 ∧ 2 * v + w = b.toNat % 4 ∧
    8 * p + 4 * q + 2 * r + s = b.toNat / 16 ∧ 8 * t + 4 * u + 2 * v + w = b.toNat % 16 ∧
    2 * p + q = b.toNat / 64 ∧
    32 * r + 16 * s + 8 * t + 4 * u + 2 * v + w = b.toNat % 64 := by
  have h := b.toNat_lt
  refine ⟨_, _, _, _, _, _, _, _, rfl, ?_, ?_, ?_, ?_, ?_, ?_⟩ <;>
    dsimp only <;> omega

theorem encode_eq_sextets (bytes : List UInt8) :
    encode bytes = (sextets (bytes.flatMap octet)).map letter := by
  induction bytes using encode.induct with
  | case1 => rfl
  | case2 a =>
    obtain ⟨p, q, r, s, t, u, v, w, ha, h1, h2, -, -, -, -⟩ := octet_parts a
    simp only [encode, ha, List.flatMap_cons, List.flatMap_nil, List.map_cons, List.map_nil,
      List.cons_append, List.nil_append, sextets, List.cons.injEq, and_true]
    exact ⟨congrArg letter (by omega), congrArg letter (by omega)⟩
  | case3 a b =>
    obtain ⟨p, q, r, s, t, u, v, w, ha, h1, h2, -, -, -, -⟩ := octet_parts a
    obtain ⟨p', q', r', s', t', u', v', w', hb, -, -, h3, h4, -, -⟩ := octet_parts b
    have hlt := b.toNat_lt
    simp only [encode, ha, hb, List.flatMap_cons, List.flatMap_nil, List.map_cons, List.map_nil,
      List.cons_append, List.nil_append, sextets, List.cons.injEq, and_true]
    exact ⟨congrArg letter (by omega), congrArg letter (by omega), congrArg letter (by omega)⟩
  | case4 a b c rest ih =>
    obtain ⟨p, q, r, s, t, u, v, w, ha, h1, h2, -, -, -, -⟩ := octet_parts a
    obtain ⟨p', q', r', s', t', u', v', w', hb, -, -, h3, h4, -, -⟩ := octet_parts b
    obtain ⟨p'', q'', r'', s'', t'', u'', v'', w'', hc, -, -, -, -, h5, h6⟩ := octet_parts c
    have hb' := b.toNat_lt
    have hc' := c.toNat_lt
    simp only [encode, ha, hb, hc, List.flatMap_cons, List.map_cons,
      List.cons_append, List.nil_append, sextets, List.cons.injEq]
    exact ⟨congrArg letter (by omega), congrArg letter (by omega), congrArg letter (by omega),
      congrArg letter (by omega), ih⟩

end Base64Url
end SingleFlight
