import SingleFlight.Parameter.Set

/-!
When sets of parameter values agree, and how they are shown then.

Sets agree if and only if every parameter has the same value in both (`agrees_iff`).  They are then
the same for whoever looks at parameters, counts entries or hashes them.  Their texts show a little
more, namely which values are secret.  Where the parameters bear the same names, that is all they
show beyond the values: the texts of sets that agree are the same if and only if the sets are
(`text_eq_iff`).
-/

namespace SingleFlight

namespace Parameter.Value

/-- A text that does not start with a star. -/
def Plain (text : String) : Prop := ∃ c cs, text.toList = c :: cs ∧ c ≠ '*'

theorem Plain.append {text : String} (h : Plain text) (rest : String) : Plain (text ++ rest) := by
  obtain ⟨c, cs, starts, plain⟩ := h
  exact ⟨c, cs ++ rest.toList, by rw [String.toList_append, starts, List.cons_append], plain⟩

theorem plain_repr (n : Nat) : Plain n.repr := by
  obtain ⟨c, cs, h⟩ := List.exists_cons_of_ne_nil (Nat.toDigits_ne_nil (n := n) (b := 10))
  have digit : c.isDigit = true :=
    Nat.isDigit_of_mem_toDigits (by decide) (by decide) (h ▸ List.mem_cons_self)
  refine ⟨c, cs, Nat.toList_repr.trans h, fun star => ?_⟩
  rw [star] at digit
  exact absurd digit (by decide)

/-- No value is shown as something that starts with a star. -/
theorem plain_shown (v : Value) : Plain v.shown := by
  have sign {c : Char} (plain : c ≠ '*') : Plain (String.singleton c) := ⟨c, [], by simp, plain⟩
  cases v with
  | text s => exact ⟨'"', _, String.toList_ofList .., by decide⟩
  | natural n => exact plain_repr n
  | integer i =>
    show Plain i.repr
    rw [Int.repr_eq_if]
    split
    · exact plain_repr _
    · exact (sign (c := '-') (by decide)).append _
  | truth b => cases b <;> exact ⟨_, _, rfl, by decide⟩
  | texts ss => exact ((sign (c := '[') (by decide)).append _).append _
  | optional s =>
    cases s with
    | none => exact ⟨'N', _, rfl, by decide⟩
    | some s => exact (Plain.append ⟨'S', _, rfl, by decide⟩ _).append _
  | table rows => exact ((sign (c := '\x7b') (by decide)).append _).append _

end Parameter.Value

namespace ParameterSet

open Parameter (Storable Value)

variable {s t : ParameterSet} {id : ParameterId}

/-! ## Entries one by one -/

/-- The set with something done to each of its entries. -/
def map (s : ParameterSet) (f : Entry → Entry) : ParameterSet :=
  { entries := s.entries.map fun row => (row.1, f row.2)
    ascending := List.pairwise_map.2 s.ascending }

theorem find?_map (s : ParameterSet) (f : Entry → Entry) (id : ParameterId) :
    (s.map f).find? id = (s.find? id).map f := by
  unfold find? map
  rw [List.find?_map, Option.map_map, Option.map_map]
  rfl

/-- The entry without a name, and no secret. -/
def Entry.bare (e : Entry) : Entry := { name := "", sensitive := false, value := e.value }

theorem content_map_bare (s : ParameterSet) : (s.map Entry.bare).content = s.content := by
  unfold content map
  rw [List.map_map]
  rfl

/-- A value is looked up among the contents. -/
theorem value?_eq (s : ParameterSet) (id : ParameterId) :
    s.value? id = (s.content.find? fun row => row.1 = id.serial).map Prod.snd := by
  unfold value? find? content
  rw [List.find?_map, Option.map_map, Option.map_map]
  have same : (fun row : ParameterId × Entry => decide (row.1 = id)) =
      (fun row : Nat × Value => decide (row.1 = id.serial)) ∘
        fun row => (row.1.serial, row.2.value) :=
    funext fun row => by simp [ParameterId.ext_iff]
  rw [same]
  rfl

/-! ## Agreement -/

/-- Sets agree if every parameter has the same value in both, or in none. -/
theorem agrees_iff : s.agrees t = true ↔ ∀ id, s.value? id = t.value? id := by
  unfold agrees
  rw [beq_iff_eq]
  constructor
  · intro same id
    rw [value?_eq, value?_eq, same]
  · intro same
    have bare : s.map Entry.bare = t.map Entry.bare := ext fun id => by
      have values := same id
      unfold value? at values
      rw [find?_map, find?_map]
      cases hs : s.find? id <;> cases ht : t.find? id <;> simp_all [Entry.bare]
    rw [← content_map_bare s, bare, content_map_bare]

theorem agrees_equivalence : Equivalence fun s t : ParameterSet => s.agrees t = true := by
  constructor
  case refl => exact fun s => agrees_iff.2 fun _ => rfl
  case symm => exact fun h => agrees_iff.2 fun id => (agrees_iff.1 h id).symm
  case trans =>
    exact fun h h' => agrees_iff.2 fun id => (agrees_iff.1 h id).trans (agrees_iff.1 h' id)

section Agrees

variable {α : Type} (h : s.agrees t = true)
include h

theorem content_eq : s.content = t.content := beq_iff_eq.1 h

theorem size_eq : s.size = t.size := by
  simpa [content, size] using congrArg List.length (content_eq h)

theorem digest_eq : s.digest = t.digest := by
  rw [digest, digest, size_eq h, content_eq h]

theorem hash_eq : hash s = hash t := by
  show hash s.digest = hash t.digest
  rw [digest_eq h]

theorem get?_eq [Storable α] (p : Parameter α) : s.get? p = t.get? p := by
  rw [get?, get?, agrees_iff.1 h p.id]

theorem getRequired_eq [Storable α] (p : Parameter α) : s.getRequired p = t.getRequired p := by
  rw [getRequired, getRequired, get?_eq h]

theorem contains_eq (p : Parameter α) : s.contains p = t.contains p := by
  have values := congrArg Option.isSome (agrees_iff.1 h p.id)
  simpa [value?, contains] using values

end Agrees

/-! ## How sets that agree are shown -/

/-- An entry can be told from its text and the value, also where more of a text follows. -/
theorem Entry.text_append_inj {e f : Entry} (name : e.name = f.name) (value : e.value = f.value)
    {rest rest' : String} : e.text ++ rest = f.text ++ rest' ↔ e = f ∧ rest = rest' := by
  refine ⟨fun same => ?_, fun ⟨he, hrest⟩ => by rw [he, hrest]⟩
  obtain ⟨n, a, v⟩ := e
  obtain ⟨m, b, w⟩ := f
  obtain rfl : n = m := name
  obtain rfl : v = w := value
  dsimp only [Entry.text] at same
  rw [@String.append_assoc (n ++ "="), @String.append_assoc (n ++ "="), String.append_right_inj]
    at same
  -- A secret starts with a star, and a value that is shown does not.
  have apart (x y : String) : redacted ++ x ≠ v.shown ++ y := fun same => by
    obtain ⟨c, cs, starts, plain⟩ := v.plain_shown
    have chars := congrArg String.toList same
    rw [String.toList_append, String.toList_append, starts] at chars
    exact plain (List.cons.inj chars).1.symm
  cases a <;> cases b
  · exact ⟨rfl, (String.append_right_inj _).1 same⟩
  · exact absurd same.symm (apart _ _)
  · exact absurd same (apart _ _)
  · exact ⟨rfl, (String.append_right_inj _).1 same⟩

/-- The parameters that have values in both sets bear the same names in both. -/
def Namesakes (s t : ParameterSet) : Prop :=
  ∀ x ∈ s.entries, ∀ y ∈ t.entries, x.1 = y.1 → x.2.name = y.2.name

/-- Entries of the same names and values are shown alike only if they are the same. -/
theorem rows_eq_of_text : ∀ {xs ys : List (ParameterId × Entry)},
    xs.map (fun row => (row.1.serial, row.2.value)) =
      ys.map (fun row => (row.1.serial, row.2.value)) →
    (∀ x ∈ xs, ∀ y ∈ ys, x.1 = y.1 → x.2.name = y.2.name) →
    ", ".intercalate (xs.map fun row => row.2.text) =
      ", ".intercalate (ys.map fun row => row.2.text) → xs = ys
  | [], [], _, _, _ => rfl
  | [], _ :: _, content, _, _ | _ :: _, [], content, _, _ => by cases content
  | x :: xs, y :: ys, content, names, same => by
    obtain ⟨first, content⟩ := List.cons.inj content
    obtain ⟨serial, value⟩ := Prod.mk.inj first
    have id : x.1 = y.1 := ParameterId.ext serial
    have name := names x List.mem_cons_self y List.mem_cons_self id
    match xs, ys with
    | [], [] =>
      have texts : x.2.text ++ "" = y.2.text ++ "" := by simpa using same
      rw [Prod.ext id ((Entry.text_append_inj name value).1 texts).1]
    | [], _ :: _ | _ :: _, [] => cases content
    | x' :: xs, y' :: ys =>
      simp only [List.map_cons] at same
      rw [String.intercalate_cons_of_ne_nil (List.cons_ne_nil x'.2.text _),
        String.intercalate_cons_of_ne_nil (List.cons_ne_nil y'.2.text _), String.append_assoc,
        String.append_assoc, Entry.text_append_inj name value, String.append_right_inj] at same
      have rest : x' :: xs = y' :: ys := rows_eq_of_text content
        (fun x hx y hy => names x (List.mem_cons_of_mem _ hx) y (List.mem_cons_of_mem _ hy)) same.2
      rw [Prod.ext id same.1, rest]

/-- Where no parameter has changed its name, the texts of sets that agree are the same only if the
same values are secret in both, and then the sets are the same. -/
theorem text_eq_iff (h : s.agrees t = true) (names : s.Namesakes t) : s.text = t.text ↔ s = t := by
  refine ⟨fun same => ?_, congrArg text⟩
  unfold text at same
  rw [String.append_assoc, String.append_assoc, String.append_right_inj, String.append_left_inj]
    at same
  have rows := rows_eq_of_text (content_eq h) names same
  cases s
  cases t
  cases rows
  rfl

end ParameterSet
end SingleFlight
