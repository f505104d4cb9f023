import Mathlib.Data.Set.List
import SingleFlight.Proofs.Parameter.Agreement

/-!
What a set of parameter values comes to after edits.

A `Vocabulary` is what a program has declared: parameters with values of any types, each with a
serial number of its own.  A declared parameter may be given another default or be marked as secret
at any time (`Parameter.Form`), and remains the one it was.  An edit gives one parameter a value or
takes it away, and of each parameter a set holds the last word that was said of it (`held_edited`)
and nothing else (`Built.exists_of_mem`).  So sets agree if and only if the last words name the same
values, in whatever order they were said, and then nobody can tell them apart but by their texts,
which show what was secret when it was said: `builds_extensional`.
-/

namespace SingleFlight

open Parameter (Storable Value)

theorem Parameter.Storable.store_injective {α : Type} [Storable α] {a b : α}
    (h : (store a : Value) = store b) : a = b := by
  have loaded : (load? (store a : Value) : Option α) = load? (store b) := congrArg load? h
  rw [load_store, load_store] at loaded
  exact Option.some.inj loaded

namespace Parameter

/-- What can become of a parameter: it gets another default, or the mark of a secret. -/
inductive Form {α : Type} (p : Parameter α) : Parameter α → Prop where
  | declared : Form p p
  | withDefault {q : Parameter α} (a : α) : Form p q → Form p (q.withDefault a)
  | marked {q : Parameter α} : Form p q → Form p q.marked

variable {α : Type} {p q : Parameter α}

theorem Form.id_eq (h : p.Form q) : q.id = p.id := by
  induction h with
  | declared => rfl
  | withDefault _ _ ih | marked _ ih => exact ih

theorem Form.name_eq (h : p.Form q) : q.name = p.name := by
  induction h with
  | declared => rfl
  | withDefault _ _ ih | marked _ ih => exact ih

/-- A declaration that says all at once. -/
theorem form_declare (d : Declarations) (name : String) (required sensitive : Bool)
    (default : Option α) :
    (d.next name required).2.Form (d.declare name required sensitive default).2 := by
  cases default <;> cases sensitive
  · exact .declared
  · exact .marked .declared
  · exact .withDefault _ .declared
  · exact .marked (.withDefault _ .declared)

end Parameter

/-- The parameters that a program has declared. -/
structure Vocabulary (ι : Type) where
  Kind : ι → Type
  storable : ∀ i, Storable (Kind i)
  parameter : ∀ i, Parameter (Kind i)
  declarations : Declarations
  declared : ∀ i, (parameter i).id.serial ≤ declarations.count
  distinct : ∀ i j, (parameter i).id.serial = (parameter j).id.serial → i = j

namespace Vocabulary

attribute [instance] storable

variable {ι : Type}

/-- Nothing is declared yet. -/
def blank : Vocabulary Empty where
  Kind := nofun
  storable := nofun
  parameter := nofun
  declarations := {}
  declared := nofun
  distinct := nofun

/-- One more declaration, under any name. -/
def declare (v : Vocabulary ι) (α : Type) [Storable α] (name : String) (required : Bool) :
    Vocabulary (Option ι) where
  Kind
    | none => α
    | some i => v.Kind i
  storable
    | none => inferInstance
    | some i => v.storable i
  parameter
    | none => (v.declarations.next name required).2
    | some i => v.parameter i
  declarations := { count := v.declarations.count + 1 }
  declared
    | none => Nat.le_refl _
    | some i => Nat.le_succ_of_le (v.declared i)
  distinct
    | none, none, _ => rfl
    | some i, some j, h => congrArg some (v.distinct i j h)
    | none, some j, h => absurd (h ▸ v.declared j) (Nat.not_succ_le_self _)
    | some i, none, h => absurd (h ▸ v.declared i) (Nat.not_succ_le_self _)

variable (v : Vocabulary ι)

/-- A declared parameter in the form in which it is used. -/
structure Use (i : ι) where
  parameter : Parameter (v.Kind i)
  form : (v.parameter i).Form parameter

/-- The parameter as it was declared. -/
def asDeclared (i : ι) : v.Use i := ⟨v.parameter i, .declared⟩

/-- One call of a builder. -/
inductive Edit where
  | add (i : ι) (p : v.Use i) (a : v.Kind i)
  | remove (i : ι) (p : v.Use i)

variable {v}

/-- The parameter that the edit is about. -/
def Edit.subject : v.Edit → ι
  | add i _ _ => i
  | remove i _ => i

def Edit.apply (s : ParameterSet) : v.Edit → ParameterSet
  | add _ p a => s.add p.parameter a
  | remove _ p => s.remove p.parameter

variable (v)

/-- The set that a builder ends with which starts from another set. -/
def edited (s : ParameterSet) (edits : List v.Edit) : ParameterSet := edits.foldl Edit.apply s

/-- The sets that can be built. -/
inductive Built : ParameterSet → Prop where
  | empty : Built .empty
  | edit {s : ParameterSet} (e : v.Edit) : Built s → Built (e.apply s)

/-- A value, and whether it was secret when it was given. -/
structure Said (α : Type) where
  value : α
  sensitive : Bool

/-- What the set holds for the parameter. -/
def held (s : ParameterSet) (i : ι) : Option (Said (v.Kind i)) :=
  (s.find? (v.parameter i).id).bind fun e =>
    (Storable.load? e.value).map fun a => ⟨a, e.sensitive⟩

/-- The entry for what is said of the parameter. -/
def entry (i : ι) (x : Said (v.Kind i)) : ParameterSet.Entry :=
  { name := (v.parameter i).name, sensitive := x.sensitive, value := Storable.store x.value }

variable {v}

theorem id_ne {i j : ι} (h : j ≠ i) : (v.parameter i).id ≠ (v.parameter j).id := fun same =>
  h (v.distinct j i (congrArg ParameterId.serial same.symm))

theorem entryOf_eq {i : ι} (p : v.Use i) (a : v.Kind i) :
    ParameterSet.entryOf p.parameter a = v.entry i ⟨a, p.parameter.sensitive⟩ := by
  rw [ParameterSet.entryOf, p.form.name_eq]
  rfl

/-! ## What is built -/

variable {s t : ParameterSet} {i : ι}

/-- What a look at a parameter finds, in whatever form the parameter is. -/
theorem get?_eq (s : ParameterSet) (p : v.Use i) :
    s.get? p.parameter = ((v.held s i).map Said.value).or p.parameter.default := by
  unfold ParameterSet.get? ParameterSet.value? held
  rw [p.form.id_eq]
  cases s.find? (v.parameter i).id with
  | none => rfl
  | some e => cases found : (Storable.load? e.value : Option (v.Kind i)) <;> simp [found]

theorem Built.edited (h : v.Built s) (edits : List v.Edit) : v.Built (v.edited s edits) := by
  induction edits generalizing s with
  | nil => exact h
  | cons e edits ih => exact ih (h.edit e)

/-- A set holds entries for declared parameters only, under their names. -/
theorem Built.exists_of_mem (h : v.Built s) {row : ParameterId × ParameterSet.Entry}
    (hrow : row ∈ s.entries) : ∃ i x, row = ((v.parameter i).id, v.entry i x) := by
  induction h with
  | empty => cases hrow
  | edit e _ ih =>
    cases e with
    | add j p a =>
      rcases ParameterSet.mem_insertEntry hrow with rfl | before
      · exact ⟨j, _, Prod.ext p.form.id_eq (entryOf_eq p a)⟩
      · exact ih before
    | remove j p => exact ih (List.mem_filter.1 hrow).1

/-- An entry is what the set holds for its parameter. -/
theorem Built.find?_eq (h : v.Built s) (i : ι) :
    s.find? (v.parameter i).id = (v.held s i).map (v.entry i) := by
  cases found : s.find? (v.parameter i).id with
  | none => simp [held, found]
  | some e =>
    obtain ⟨j, x, hrow⟩ := h.exists_of_mem (ParameterSet.mem_of_find? found)
    obtain ⟨hid, rfl⟩ := Prod.mk.inj hrow
    obtain rfl : i = j := v.distinct i j (congrArg ParameterId.serial hid)
    simp [held, found, entry, Storable.load_store]

theorem Built.contains_eq (h : v.Built s) (p : v.Use i) :
    s.contains p.parameter = (v.held s i).isSome := by
  rw [ParameterSet.contains, p.form.id_eq, h.find?_eq, Option.isSome_map]

/-- Built sets are the same if they hold the same for every parameter. -/
theorem Built.ext (hs : v.Built s) (ht : v.Built t) (same : ∀ i, v.held s i = v.held t i) :
    s = t := by
  have carried {s t : ParameterSet} (hs : v.Built s) (ht : v.Built t)
      (same : ∀ i, v.held s i = v.held t i) {id : ParameterId} {e : ParameterSet.Entry}
      (found : s.find? id = some e) : t.find? id = some e := by
    obtain ⟨i, x, hrow⟩ := hs.exists_of_mem (ParameterSet.mem_of_find? found)
    obtain ⟨rfl, rfl⟩ := Prod.mk.inj hrow
    rw [ht.find?_eq, ← same, ← hs.find?_eq, found]
  exact ParameterSet.ext fun id => Option.ext fun e =>
    ⟨carried hs ht same, carried ht hs fun i => (same i).symm⟩

/-! ## Agreement -/

theorem map_value_held (s : ParameterSet) (i : ι) :
    (v.held s i).map Said.value = (s.value? (v.parameter i).id).bind Storable.load? := by
  unfold held ParameterSet.value?
  cases s.find? (v.parameter i).id with
  | none => rfl
  | some e => cases found : (Storable.load? e.value : Option (v.Kind i)) <;> simp [found]

theorem Built.value?_eq (h : v.Built s) (i : ι) :
    s.value? (v.parameter i).id = ((v.held s i).map Said.value).map Storable.store := by
  rw [ParameterSet.value?, h.find?_eq, Option.map_map, Option.map_map]
  rfl

/-- A set has values for declared parameters only. -/
theorem Built.exists_of_value? (h : v.Built s) {id : ParameterId} {w : Value}
    (found : s.value? id = some w) : ∃ i, id = (v.parameter i).id := by
  obtain ⟨e, he, -⟩ := Option.map_eq_some_iff.1 found
  obtain ⟨i, x, hrow⟩ := h.exists_of_mem (ParameterSet.mem_of_find? he)
  exact ⟨i, (Prod.mk.inj hrow).1⟩

theorem Built.agrees_iff (hs : v.Built s) (ht : v.Built t) :
    s.agrees t = true ↔ ∀ i, (v.held s i).map Said.value = (v.held t i).map Said.value := by
  rw [ParameterSet.agrees_iff]
  refine ⟨fun same i => by rw [map_value_held, map_value_held, same], fun same id => ?_⟩
  by_cases known : ∃ i, id = (v.parameter i).id
  · obtain ⟨i, rfl⟩ := known
    rw [hs.value?_eq, ht.value?_eq, same]
  · have unknown {s : ParameterSet} (h : v.Built s) : s.value? id = none :=
      Option.eq_none_iff_forall_ne_some.2 fun w found => known (h.exists_of_value? found)
    rw [unknown hs, unknown ht]

/-- Names never change, so the texts of built sets that agree differ only in what is secret. -/
theorem Built.text_eq_iff (hs : v.Built s) (ht : v.Built t) (agrees : s.agrees t = true) :
    s.text = t.text ↔
      ∀ i, (v.held s i).map Said.sensitive = (v.held t i).map Said.sensitive := by
  have names : s.Namesakes t := by
    intro x hx y hy same
    obtain ⟨i, a, rfl⟩ := hs.exists_of_mem hx
    obtain ⟨j, b, rfl⟩ := ht.exists_of_mem hy
    obtain rfl : i = j := v.distinct i j (congrArg ParameterId.serial same)
    rfl
  rw [ParameterSet.text_eq_iff agrees names]
  refine ⟨fun same i => by rw [same], fun marks => hs.ext ht fun i => ?_⟩
  have values := (hs.agrees_iff ht).1 agrees i
  have secrets := marks i
  cases hx : v.held s i with
  | none => cases hy : v.held t i <;> simp_all
  | some x =>
    cases hy : v.held t i with
    | none => simp_all
    | some y =>
      rw [hx, hy] at values secrets
      cases x
      cases y
      cases Option.some.inj values
      cases Option.some.inj secrets
      rfl

/-! ## The last word -/

section LastWord

variable [DecidableEq ι]

/-- What the edit says of the parameter: that it has a value or that it has none, if anything. -/
def Edit.word (i : ι) : v.Edit → Option (Option (Said (v.Kind i)))
  | add j p a =>
    if h : j = i then some (some { value := h ▸ a, sensitive := p.parameter.sensitive }) else none
  | remove j _ => if j = i then some none else none

/-- What was last said of the parameter; before that it was as it was at first. -/
def lastWord (before : Option (Said (v.Kind i))) (edits : List v.Edit) :
    Option (Said (v.Kind i)) :=
  (edits.filterMap (Edit.word i)).getLast?.getD before

theorem find?_apply (s : ParameterSet) (e : v.Edit) (i : ι) :
    (e.apply s).find? (v.parameter i).id =
      ((e.word i).map (Option.map (v.entry i))).getD (s.find? (v.parameter i).id) := by
  cases e with
  | add j p a =>
    show (s.insert p.parameter.id _).find? _ = _
    rw [ParameterSet.find?_insert, p.form.id_eq, entryOf_eq]
    by_cases h : j = i
    · subst h
      simp [Edit.word]
    · rw [if_neg (id_ne h)]
      simp [Edit.word, h]
  | remove j p =>
    show (s.erase p.parameter.id).find? _ = _
    rw [ParameterSet.find?_erase, p.form.id_eq]
    by_cases h : j = i
    · subst h
      simp [Edit.word]
    · rw [if_neg (id_ne h)]
      simp [Edit.word, h]

theorem held_apply (s : ParameterSet) (e : v.Edit) (i : ι) :
    v.held (e.apply s) i = (e.word i).getD (v.held s i) := by
  unfold held
  rw [find?_apply]
  cases e.word i with
  | none => rfl
  | some word =>
    cases word with
    | none => rfl
    | some x => simp [entry, Storable.load_store]

theorem Edit.word_of_ne {e : v.Edit} (h : e.subject ≠ i) : e.word i = none := by
  cases e with
  | add j p a => exact dif_neg h
  | remove j p => exact if_neg h

theorem lastWord_cons (before : Option (Said (v.Kind i))) (e : v.Edit) (edits : List v.Edit) :
    lastWord before (e :: edits) = lastWord ((e.word i).getD before) edits := by
  unfold lastWord
  cases h : e.word i with
  | none => rw [List.filterMap_cons_none h]; rfl
  | some word => rw [List.filterMap_cons_some h, List.getLast?_cons]; rfl

/-- The last word counts. -/
theorem held_edited (s : ParameterSet) (edits : List v.Edit) (i : ι) :
    v.held (v.edited s edits) i = lastWord (v.held s i) edits := by
  induction edits generalizing s with
  | nil => rfl
  | cons e edits ih =>
    show v.held (v.edited (e.apply s) edits) i = _
    rw [ih, held_apply, lastWord_cons]

end LastWord

/-! ## Display -/

variable (v) in
/-- How a parameter is shown with what is said of it. -/
def rowText (row : Σ i, Said (v.Kind i)) : String :=
  (v.parameter row.1).name ++ "=" ++
    if row.2.sensitive then ParameterSet.redacted
    else (Storable.store row.2.value : Value).shown

/-- A set is shown with its values in the order in which their parameters were declared. -/
theorem Built.displayed (h : v.Built s) : ∃ rows : List (Σ i, Said (v.Kind i)),
    rows.Pairwise (fun a b => (v.parameter a.1).id.serial < (v.parameter b.1).id.serial) ∧
    (∀ i x, ⟨i, x⟩ ∈ rows ↔ v.held s i = some x) ∧
    s.text = "\x7b" ++ ", ".intercalate (rows.map v.rowText) ++ "\x7d" := by
  let line (row : Σ i, Said (v.Kind i)) : ParameterId × ParameterSet.Entry :=
    ((v.parameter row.1).id, v.entry row.1 row.2)
  have listed : s.entries ∈ Set.range (List.map line) := by
    rw [Set.range_list_map]
    intro row hrow
    obtain ⟨i, x, rfl⟩ := h.exists_of_mem hrow
    exact ⟨⟨i, x⟩, rfl⟩
  obtain ⟨rows, hrows⟩ := listed
  refine ⟨rows, ?_, fun i x => ?_, ?_⟩
  · have ascending := s.ascending
    rwa [← hrows, List.pairwise_map] at ascending
  · constructor
    · intro hrow
      have there : line ⟨i, x⟩ ∈ s.entries := hrows ▸ List.mem_map_of_mem hrow
      have found := ParameterSet.find?_eq_some_iff.2 there
      simp [held, found, entry, Storable.load_store]
    · intro holds
      have found := h.find?_eq i
      rw [holds] at found
      have there := ParameterSet.mem_of_find? found
      rw [← hrows] at there
      obtain ⟨⟨j, y⟩, hrow, hline⟩ := List.mem_map.1 there
      obtain ⟨hid, hentry⟩ := Prod.mk.inj hline
      obtain rfl : j = i := v.distinct j i (congrArg ParameterId.serial hid)
      obtain ⟨-, secret, value⟩ := ParameterSet.Entry.mk.inj hentry
      cases x
      cases y
      cases secret
      cases Storable.store_injective value
      exact hrow
  · unfold ParameterSet.text
    rw [← hrows, List.map_map]
    rfl

/-! ## Extensionality -/

/-- A set of parameter values is the map of the last words, and fit to be a key.

Two sets that are built by any edits from any sets agree if and only if for every parameter the same
value was said last, which is to say that both hold no value for it or both hold the same one.
Agreement is an equivalence.  Sets that agree feed the same to a hasher, and cannot be told apart by
a look at any parameter or by their size.  Their texts are the same if and only if the same values
were secret when they were said last.  A text shows the values in the order in which their
parameters were declared.  A parameter has the value that was last added and not removed, or else
its default, and no edit for another parameter changes that, whatever its name.

All of this is about parameters in any form.  It makes no difference to the values of a set, and to
what it agrees with, whether a parameter was marked as secret before or after it was used. -/
theorem builds_extensional [DecidableEq ι] (hs : v.Built s) (ht : v.Built t)
    (es fs : List v.Edit) :
    let a := v.edited s es
    let b := v.edited t fs
    (a.agrees b = true ↔ ∀ i,
      (lastWord (v.held s i) es).map Said.value = (lastWord (v.held t i) fs).map Said.value) ∧
    (a.agrees b = true ↔ ∀ i,
      (∀ p : v.Use i, a.contains p.parameter = false ∧ b.contains p.parameter = false) ∨
        ∃ x y, v.held a i = some x ∧ v.held b i = some y ∧ x.value = y.value) ∧
    (Equivalence fun x y : ParameterSet => x.agrees y = true) ∧
    (a.agrees b = true → a.digest = b.digest ∧ hash a = hash b ∧
      (∀ {α : Type} [Storable α] (p : Parameter α), a.get? p = b.get? p ∧
        a.getRequired p = b.getRequired p ∧ a.contains p = b.contains p) ∧
      a.size = b.size ∧
      (a.text = b.text ↔ ∀ i, (lastWord (v.held s i) es).map Said.sensitive =
        (lastWord (v.held t i) fs).map Said.sensitive)) ∧
    (∃ rows : List (Σ i, Said (v.Kind i)),
      rows.Pairwise (fun x y => (v.parameter x.1).id.serial < (v.parameter y.1).id.serial) ∧
      (∀ i x, ⟨i, x⟩ ∈ rows ↔ lastWord (v.held s i) es = some x) ∧
      a.text = "\x7b" ++ ", ".intercalate (rows.map v.rowText) ++ "\x7d") ∧
    (∀ i (p : v.Use i), a.get? p.parameter =
        ((lastWord (v.held s i) es).map Said.value).or p.parameter.default ∧
      a.contains p.parameter = (lastWord (v.held s i) es).isSome) ∧
    ∀ (e : v.Edit) i, e.subject ≠ i → ∀ p : v.Use i,
      (e.apply a).get? p.parameter = a.get? p.parameter ∧
      (e.apply a).contains p.parameter = a.contains p.parameter := by
  intro a b
  have ha : v.Built a := hs.edited es
  have hb : v.Built b := ht.edited fs
  have words : ∀ i, v.held a i = lastWord (v.held s i) es := held_edited s es
  have words' : ∀ i, v.held b i = lastWord (v.held t i) fs := held_edited t fs
  refine ⟨?_, ?_, ParameterSet.agrees_equivalence, ?_, ?_, ?_, ?_⟩
  · rw [ha.agrees_iff hb]
    simp only [words, words']
  · rw [ha.agrees_iff hb]
    refine forall_congr' fun i => ?_
    simp only [ha.contains_eq, hb.contains_eq]
    have used : Nonempty (v.Use i) := ⟨v.asDeclared i⟩
    cases v.held a i <;> cases v.held b i <;> simp
  · intro agrees
    refine ⟨ParameterSet.digest_eq agrees, ParameterSet.hash_eq agrees, fun p => ?_,
      ParameterSet.size_eq agrees, ?_⟩
    · exact ⟨ParameterSet.get?_eq agrees p, ParameterSet.getRequired_eq agrees p,
        ParameterSet.contains_eq agrees p⟩
    · rw [ha.text_eq_iff hb agrees]
      simp only [words, words']
  · simp only [← words]
    exact ha.displayed
  · intro i p
    rw [get?_eq, ha.contains_eq, words]
    exact ⟨rfl, rfl⟩
  · intro e i other p
    have unsaid : v.held (e.apply a) i = v.held a i := by
      rw [held_apply, Edit.word_of_ne other]
      rfl
    rw [get?_eq, get?_eq, (ha.edit e).contains_eq, ha.contains_eq, unsaid]
    exact ⟨rfl, rfl⟩

/-- Two parameters of one name, with values added in either order, one of them late and another
removed in between.  Both are secret in the end, although one was not so at first. -/
theorem builds_extensional_namesakes :
    ∃ v : Vocabulary (Option (Option Empty)), ∃ es fs : List v.Edit, es ≠ fs ∧
      (v.parameter none).name = (v.parameter (some none)).name ∧
      (v.edited .empty es).agrees (v.edited .empty fs) = true ∧
      hash (v.edited .empty es) = hash (v.edited .empty fs) ∧
      (v.edited .empty es).text = (v.edited .empty fs).text := by
  let v : Vocabulary (Option (Option Empty)) :=
    (blank.declare String "region" true).declare Nat "region" false
  let number : v.Use none := ⟨_, Parameter.form_declare _ "region" false true (some (7 : Nat))⟩
  let place : v.Use (some none) := ⟨_, .marked .declared⟩
  let es : List v.Edit := [.add none number (5 : Nat), .add (some none) place "eu"]
  let fs : List v.Edit := [.add (some none) (v.asDeclared _) "us", .add none number (3 : Nat),
    .remove none number, .add (some none) place "eu", .add none number (5 : Nat)]
  obtain ⟨same, -, -, alike, -⟩ := builds_extensional (v := v) .empty .empty es fs
  have agree := same.2 fun i => match i with
    | none => rfl
    | some none => rfl
    | some (some absurd) => absurd.elim
  obtain ⟨-, hashes, -, -, texts⟩ := alike agree
  have longer : es.length ≠ fs.length := show 2 ≠ 5 by decide
  exact ⟨v, es, fs, fun same => longer (congrArg List.length same), rfl, agree, hashes,
    texts.2 fun i => match i with
      | none => rfl
      | some none => rfl
      | some (some absurd) => absurd.elim⟩

/-- A parameter is marked as secret between two uses.  Sets with the same value for it agree, and
their texts tell them apart. -/
theorem agrees_shown_apart :
    let p : Parameter String := (Declarations.next {} "k" true).2
    let a := ParameterSet.empty.add p "x"
    let b := ParameterSet.empty.add p.marked "x"
    p.Form p.marked ∧ a.agrees b = true ∧ hash a = hash b ∧ a.get? p = b.get? p ∧
      a.text = "\x7bk=\"x\"\x7d" ∧ b.text = "\x7bk=****\x7d" ∧ a.text ≠ b.text := by
  intro p a b
  have shown : a.text = "\x7bk=\"x\"\x7d" := by decide +kernel
  have secret : b.text = "\x7bk=****\x7d" := by decide +kernel
  refine ⟨.marked .declared, by decide, rfl, rfl, shown, secret, ?_⟩
  rw [shown, secret]
  decide

end Vocabulary
end SingleFlight
