import Mathlib.Data.List.DropRight
import Mathlib.Data.List.TakeWhile
import Mathlib.Data.Nat.Digits.Lemmas
import SingleFlight.Text.Blank
import SingleFlight.Text.Natural

/-!
Numbers in texts.

What is left of a text without the blanks around it stands between them, and is all of it if no
blank is at its ends (`exists_blanks`, `toList_trim`).  A number is read exactly from its decimal
digits, with a plus before them or not, if it fits into 64 bits (`natural64?_eq_some_iff`).
-/

namespace SingleFlight
namespace Text

variable {cs before middle after : List Char} {n : Nat}

theorem dropBlanks_append (blank : ∀ c ∈ before, isBlank c = true)
    (stop : ∀ c, cs.head? = some c → isBlank c = false) : dropBlanks (before ++ cs) = cs := by
  rw [dropBlanks, List.dropWhile_append_of_pos blank]
  cases cs with
  | nil => rfl
  | cons c cs => rw [List.dropWhile_cons_of_neg (by simp [stop c rfl])]

/-- What stands between blanks. -/
theorem toList_trim {s : String} (hs : s.toList = before ++ middle ++ after)
    (hbefore : ∀ c ∈ before, isBlank c = true) (hafter : ∀ c ∈ after, isBlank c = true)
    (hmiddle : ∀ c ∈ middle, isBlank c = false) (some_middle : middle ≠ []) :
    (trim s).toList = middle := by
  have front : dropBlanks s.toList = middle ++ after := by
    rw [hs, List.append_assoc]
    refine dropBlanks_append hbefore fun c first => hmiddle c ?_
    rw [List.head?_append_of_ne_nil _ some_middle] at first
    exact List.mem_of_head? first
  have back : dropBlanks (middle ++ after).reverse = middle.reverse := by
    rw [List.reverse_append]
    exact dropBlanks_append (fun c mem => hafter c (List.mem_reverse.1 mem)) fun c first =>
      hmiddle c (List.mem_reverse.1 (List.mem_of_head? first))
  rw [trim, String.toList_ofList, front, back, List.reverse_reverse]

theorem exists_blanks (s : String) : ∃ before after,
    s.toList = before ++ (trim s).toList ++ after ∧
      (∀ c ∈ before, isBlank c = true) ∧ ∀ c ∈ after, isBlank c = true := by
  refine ⟨s.toList.takeWhile isBlank, (dropBlanks s.toList).rtakeWhile isBlank, ?_,
    fun c => List.mem_takeWhile_imp, fun c => List.mem_rtakeWhile_imp⟩
  have middle : (trim s).toList = (dropBlanks s.toList).rdropWhile isBlank :=
    String.toList_ofList ..
  rw [middle, List.append_assoc, List.rdropWhile_append_rtakeWhile, dropBlanks,
    List.takeWhile_append_dropWhile]

/-- A number in decimal digits, perhaps with zeros before it. -/
structure Spells (cs : List Char) (ds : List Nat) : Prop where
  chars_eq : cs = ds.map Nat.digitChar
  nonempty : ds ≠ []
  small : ∀ d ∈ ds, d < 10

theorem exists_digit {c : Char} (h : c.isDigit = true) : c.toNat - 48 < 10 ∧
    c = Nat.digitChar (c.toNat - 48) := by
  have all : ∀ d < 10, (Nat.digitChar d).toNat = d + 48 := by decide
  obtain ⟨low, high⟩ : 48 ≤ c.toNat ∧ c.toNat ≤ 57 := by
    simp only [Char.isDigit, Bool.and_eq_true, decide_eq_true_eq] at h
    exact ⟨UInt32.le_iff_toNat_le.1 h.1, UInt32.le_iff_toNat_le.1 h.2⟩
  have lt : c.toNat - 48 < 10 := by omega
  refine ⟨lt, Char.toNat_inj.1 ?_⟩
  rw [all _ lt]
  omega

theorem exists_spells (some_chars : cs ≠ []) (digits : cs.all Char.isDigit = true) :
    ∃ ds, Spells cs ds := by
  have each : ∀ c ∈ cs, c.isDigit = true := List.all_eq_true.1 digits
  refine ⟨cs.map fun c => c.toNat - 48, ?_, by simpa using some_chars, fun d mem => ?_⟩
  · rw [List.map_map]
    exact (List.map_id cs).symm.trans
      (List.map_congr_left fun c (mem : c ∈ cs) => (exists_digit (each c mem)).2)
  · obtain ⟨c, hc, rfl⟩ := List.mem_map.1 mem
    exact (exists_digit (each c hc)).1

namespace Spells

variable {ds : List Nat}

theorem isDigit (h : Spells cs ds) : ∀ c ∈ cs, c.isDigit = true := by
  have all : ∀ d < 10, (Nat.digitChar d).isDigit = true := by decide
  intro c mem
  rw [h.chars_eq] at mem
  obtain ⟨d, hd, rfl⟩ := List.mem_map.1 mem
  exact all d (h.small d hd)

theorem ne_nil (h : Spells cs ds) : cs ≠ [] := by
  rw [h.chars_eq]
  simpa using h.nonempty

theorem unsigned (h : Spells cs ds) (rest : List Char) : cs ≠ '+' :: rest := by
  rintro rfl
  exact absurd (h.isDigit '+' (List.mem_cons_self ..)) (by decide)

/-- The number that is read, the most significant digit first. -/
theorem foldl_eq (h : Spells cs ds) :
    cs.foldl (fun n c => 10 * n + (c.toNat - 48)) 0 = Nat.ofDigits 10 ds.reverse := by
  have all : ∀ d < 10, (Nat.digitChar d).toNat - 48 = d := by decide
  have digits : ∀ (ds : List Nat), (∀ d ∈ ds, d < 10) → ∀ n,
      (ds.map Nat.digitChar).foldl (fun n c => 10 * n + (c.toNat - 48)) n =
        ds.foldl (fun n d => 10 * n + d) n := by
    intro ds
    induction ds with
    | nil => exact fun _ _ => rfl
    | cons d ds ih =>
      intro small n
      rw [List.map_cons, List.foldl_cons, List.foldl_cons, all d (small d (by simp))]
      exact ih (fun d mem => small d (by simp [mem])) _
  rw [h.chars_eq, digits ds h.small, Nat.ofDigits_eq_foldr, List.foldr_reverse]
  simp only [Nat.cast_id, Nat.add_comm]

end Spells

theorem digits64?_eq_some_iff : digits64? cs = some n ↔
    ∃ ds, Spells cs ds ∧ Nat.ofDigits 10 ds.reverse = n ∧ n < 2 ^ 64 := by
  unfold digits64?
  constructor
  · intro h
    split at h
    next digits =>
      simp only [Bool.and_eq_true, Bool.not_eq_true', List.isEmpty_eq_false_iff] at digits
      obtain ⟨ds, spells⟩ := exists_spells digits.1 digits.2
      rw [spells.foldl_eq] at h
      dsimp only at h
      split at h
      next fits =>
        cases h
        exact ⟨ds, spells, rfl, by omega⟩
      next => cases h
    next => cases h
  · rintro ⟨ds, spells, rfl, fits⟩
    have digits : (!cs.isEmpty && cs.all Char.isDigit) = true := by
      simpa [List.all_eq_true] using ⟨spells.ne_nil, spells.isDigit⟩
    rw [if_pos digits, spells.foldl_eq]
    exact if_pos (by omega)

theorem natural64?_eq_some_iff : natural64? cs = some n ↔
    ∃ sign rest ds, sign ∈ [[], ['+']] ∧ cs = sign ++ rest ∧ Spells rest ds ∧
      Nat.ofDigits 10 ds.reverse = n ∧ n < 2 ^ 64 := by
  constructor
  · intro h
    unfold natural64? at h
    split at h
    next rest =>
      obtain ⟨ds, spells, value⟩ := digits64?_eq_some_iff.1 h
      exact ⟨['+'], rest, ds, by simp, rfl, spells, value⟩
    next =>
      obtain ⟨ds, spells, value⟩ := digits64?_eq_some_iff.1 h
      exact ⟨[], cs, ds, by simp, rfl, spells, value⟩
  · rintro ⟨sign, rest, ds, mem, rfl, spells, value⟩
    have read := digits64?_eq_some_iff.2 ⟨ds, spells, value⟩
    rcases List.mem_pair.1 mem with rfl | rfl
    · unfold natural64?
      split
      next other same => exact absurd same (spells.unsigned other)
      next => exact read
    · exact read

end Text
end SingleFlight
