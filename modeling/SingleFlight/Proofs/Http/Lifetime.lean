import SingleFlight.Http
import SingleFlight.Proofs.FiniteClock
import SingleFlight.Proofs.Text.Natural

/-!
Tokens of responses.

A response names its token in one field and, if it likes, the lifetime in another: `Lifetime` says
what counts as one.  The main statement, `tokenOf_response`, is that a response of success gives a
token exactly if the first field holds a text and either the second holds a lifetime, or the text
carries its own expiry; and that no lifetime, however long, leads past the end of the clock.
-/

namespace SingleFlight

/-! ## Members of a body -/

namespace Json
namespace Value

variable {members : List (String × Value)} {name : String} {v : Value}

/-- The member that counts among those with its name. -/
def LastMember (members : List (String × Value)) (name : String) (v : Value) : Prop :=
  ∃ before after, members = before ++ (name, v) :: after ∧ ∀ m ∈ after, m.1 ≠ name

theorem get?_object : (object members).get? name = some v ↔ LastMember members name v := by
  rw [get?, List.lookup_eq_some_iff]
  constructor
  · rintro ⟨after, before, split, others⟩
    refine ⟨before.reverse, after.reverse, ?_, fun m mem same => ?_⟩
    · rw [← List.reverse_inj, split]
      simp
    · simpa [same] using others m (List.mem_reverse.1 mem)
  · rintro ⟨before, after, rfl, others⟩
    refine ⟨after.reverse, before.reverse, by simp, fun m mem => ?_⟩
    simpa using fun same : name = m.1 => others m (List.mem_reverse.1 mem) same.symm

theorem get?_eq_some_iff {body : Value} : body.get? name = some v ↔
    ∃ members, body = object members ∧ LastMember members name v := by
  cases body with
  | object members => simp [get?_object]
  | _ => simp [get?]

/-- No integer of a tree is beyond 64 bits: what lies there is no integer any more. -/
theorem lt_of_ofTree? {room : Nat} {t : Tree} {i : Int}
    (h : ofTree? room t = some (number (.integer i))) : i < 2 ^ 64 := by
  cases t with
  | number n =>
    obtain ⟨x, found, same⟩ := Option.map_eq_some_iff.1 (by rwa [ofTree?] at h)
    cases same
    unfold Numeral.number? at found
    split at found
    · split at found
      next fits =>
        cases found
        omega
      next => split at found <;> cases found
    · split at found <;> cases found
  | null | truth | text | array | object => simp [ofTree?] at h

theorem exists_tree_of_mem {room : Nat} {ms : List (List UInt8 × Tree)}
    (h : ofMembers? room ms = some members) (mem : (name, v) ∈ members) :
    ∃ t, ofTree? room t = some v := by
  induction ms generalizing members with
  | nil =>
    rw [ofMembers?] at h
    cases h
    cases mem
  | cons m ms ih =>
    rw [ofMembers?] at h
    split at h
    next found =>
      obtain ⟨rest, hrest, rfl⟩ := Option.map_eq_some_iff.1 h
      rcases List.mem_cons.1 mem with same | mem
      · cases same
        exact ⟨_, found⟩
      · exact ih hrest mem
    next => cases h

theorem lt_of_read {body : List UInt8} {i : Int} (h : read body = some (object members))
    (last : LastMember members name (number (.integer i))) : i < 2 ^ 64 := by
  obtain ⟨before, after, rfl, -⟩ := last
  obtain ⟨t, -, meaning⟩ := Option.bind_eq_some_iff.1 h
  cases t with
  | object ms =>
    rw [ofTree?, if_neg (by decide)] at meaning
    obtain ⟨_, found, same⟩ := Option.map_eq_some_iff.1 meaning
    cases same
    obtain ⟨t, integer⟩ := exists_tree_of_mem found
      (List.mem_append_right before (List.mem_cons_self ..))
    exact lt_of_ofTree? integer
  | null | truth | number | text | array => simp [ofTree?] at meaning

end Value
end Json

namespace Token

/-- A token that carries its expiry is the whole text. -/
theorem exists_of_ofJwt {now : Nat} {wall : Int} {value : String} {t : Token}
    (h : ofJwt now wall value = .ok t) : ∃ expiry, t = ofUnixExpiry now wall value expiry := by
  unfold ofJwt at h
  split at h
  · cases h
  · split at h
    · cases h
    · split at h
      · cases h
      · cases h
        exact ⟨_, rfl⟩

end Token

/-! ## Responses -/

namespace Http

open Json (Value)
open Json.Value (LastMember)

/-- What a member of a body may hold for a lifetime of so many seconds: an integer of 64 bits, or a
text with the digits of one, with a plus before them or not, and blanks around. -/
inductive Lifetime : Value → Nat → Prop where
  | number {n : Nat} (fits : n < 2 ^ 64) : Lifetime (.number (.integer n)) n
  | text {s : String} {before sign digits after : List Char} {ds : List Nat}
    (toList_eq : s.toList = before ++ (sign ++ digits) ++ after)
    (blank_before : ∀ c ∈ before, Text.isBlank c = true)
    (blank_after : ∀ c ∈ after, Text.isBlank c = true)
    (plus : sign ∈ [[], ['+']])
    (spells : Text.Spells digits ds)
    (fits : Nat.ofDigits 10 ds.reverse < 2 ^ 64) : Lifetime (.text s) (Nat.ofDigits 10 ds.reverse)

theorem seconds?_text {s : String} {n : Nat} :
    seconds? (.text s) = some n ↔ Lifetime (.text s) n := by
  constructor
  · intro h
    obtain ⟨sign, digits, ds, plus, middle, spells, rfl, fits⟩ :=
      Text.natural64?_eq_some_iff.1 h
    obtain ⟨before, after, hs, hbefore, hafter⟩ := Text.exists_blanks s
    exact .text (middle ▸ hs) hbefore hafter plus spells fits
  · intro h
    cases h with
    | @text _ before sign digits after ds hs hbefore hafter plus spells fits =>
      have unblank : ∀ c ∈ sign ++ digits, Text.isBlank c = false := by
        have all : ∀ d < 10, Text.isBlank (Nat.digitChar d) = false := by decide
        intro c mem
        rcases List.mem_append.1 mem with mem | mem
        · rcases List.mem_pair.1 plus with rfl | rfl
          · cases mem
          · rw [List.mem_singleton.1 mem]
            decide
        · rw [spells.chars_eq] at mem
          obtain ⟨d, hd, rfl⟩ := List.mem_map.1 mem
          exact all d (spells.small d hd)
      have middle := Text.toList_trim hs hbefore hafter unblank (by simp [spells.ne_nil])
      exact Text.natural64?_eq_some_iff.2 ⟨sign, digits, ds, plus, middle, spells, rfl, fits⟩

theorem seconds?_eq_some_iff {v : Value} {n : Nat}
    (bounded : ∀ i, v = .number (.integer i) → i < 2 ^ 64) :
    seconds? v = some n ↔ Lifetime v n := by
  cases v with
  | text s => exact seconds?_text
  | number x =>
    cases x with
    | integer i =>
      have bound := bounded i rfl
      constructor
      · intro h
        rw [seconds?] at h
        split at h
        next natural =>
          cases h
          have same : i = (i.toNat : Int) := (Int.toNat_of_nonneg natural).symm
          rw [same]
          exact .number (by omega)
        next => cases h
      · rintro ⟨⟩
        simp [seconds?]
    | real => exact iff_of_false (by simp [seconds?]) nofun
  | null | truth | array | object => exact iff_of_false (by simp [seconds?]) nofun

/-- The response says how long its token lasts. -/
def Lasts (members : List (String × Value)) (field : String) (n : Nat) : Prop :=
  ∃ item, LastMember members field item ∧ Lifetime item n

variable {p : Plan} {now : Nat} {wall : Int} {body : List UInt8} {token : Token}

theorem seconds?_member {members : List (String × Value)}
    (h : Value.read body = some (.object members)) (field : String) (n : Nat) :
    ((Value.object members).get? field).bind seconds? = some n ↔ Lasts members field n := by
  rw [Option.bind_eq_some_iff]
  refine exists_congr fun item => ?_
  rw [Json.Value.get?_object]
  refine and_congr_right fun last => seconds?_eq_some_iff fun i same => ?_
  subst same
  exact Json.Value.lt_of_read h last

theorem text?_member {v : Value} {field value : String} :
    (v.get? field).bind Value.text? = some value ↔
      ∃ members, v = .object members ∧ LastMember members field (.text value) := by
  rw [Option.bind_eq_some_iff]
  constructor
  · rintro ⟨item, found, text⟩
    cases item with
    | text s =>
      cases text
      exact Json.Value.get?_eq_some_iff.1 found
    | null | truth | number | array | object => cases text
  · intro member
    exact ⟨_, Json.Value.get?_eq_some_iff.2 member, rfl⟩

/-- What an object with such a text is read as. -/
theorem readToken_member {members : List (String × Value)} {value : String}
    (read : Value.read body = some (.object members))
    (member : LastMember members p.tokenField (.text value)) :
    readToken p now wall (.object members) = .ok token ↔
      (∃ n, Lasts members p.expiresInField n ∧
        token = Token.expiringIn now value (Span.ofSeconds n)) ∨
      (¬ ∃ n, Lasts members p.expiresInField n) ∧ Token.ofJwt now wall value = .ok token := by
  have found := text?_member.2 ⟨members, rfl, member⟩
  simp only [readToken, found, ← seconds?_member read]
  cases ((Value.object members).get? p.expiresInField).bind seconds? with
  | some n => simp [eq_comm]
  | none => cases Token.ofJwt now wall value <;> simp

/-- A token is read if there is one, from a body that is an object. -/
theorem tokenOf_ok {status : Nat} (success : 200 ≤ status ∧ status < 300) :
    tokenOf p now wall (.response status body) = .ok token ↔
      ∃ members value, Value.read body = some (.object members) ∧
        LastMember members p.tokenField (.text value) ∧
        readToken p now wall (.object members) = .ok token := by
  have good : isSuccess status = true := by simpa [isSuccess] using success
  rw [tokenOf, if_pos good]
  constructor
  · intro h
    split at h
    next v read =>
      cases found : (v.get? p.tokenField).bind Value.text? with
      | none => simp [readToken, found] at h
      | some value =>
        obtain ⟨members, rfl, member⟩ := text?_member.1 found
        exact ⟨members, value, read, member, h⟩
    next => cases h
  · rintro ⟨members, value, read, -, h⟩
    rw [read]
    exact h

/-- A token of a response is that of a text, and so is its expiry: within 64 bits of seconds. -/
theorem readToken_expiresAt {members : List (String × Value)} {value : String}
    (read : Value.read body = some (.object members))
    (member : LastMember members p.tokenField (.text value))
    (h : readToken p now wall (.object members) = .ok token) : token.value = value ∧
      ∃ n < 2 ^ 64, token.expiresAt = Instant.after now (Span.ofSeconds n) := by
  rcases (readToken_member read member).1 h with ⟨n, ⟨item, -, lifetime⟩, rfl⟩ | ⟨-, jwt⟩
  · refine ⟨rfl, n, ?_, rfl⟩
    cases lifetime <;> assumption
  · obtain ⟨expiry, rfl⟩ := Token.exists_of_ofJwt jwt
    refine ⟨rfl, _, ?_, rfl⟩
    unfold Instant.saturate
    omega

/-- What token a response of success gives.

It gives one exactly if its body is an object whose field of the token holds a text, and its field
of the lifetime holds one, or the text carries its own expiry.  A lifetime that is there decides,
and then the text is not looked at; one year is the longest that is believed.  Whatever else the
field holds is no lifetime, and the text is read for its expiry.  The value is the text as it is.

No number leads too far: the seconds make a span, and a clock that shows the present shows the
expiry, which is the sum unless the clock ends within a year. -/
theorem tokenOf_response (p : Plan) {status : Nat} (success : 200 ≤ status ∧ status < 300)
    (now : Nat) (wall : Int) (body : List UInt8) :
    (∀ token, tokenOf p now wall (.response status body) = .ok token ↔
      ∃ members value, Value.read body = some (.object members) ∧
        LastMember members p.tokenField (.text value) ∧ token.value = value ∧
        ((∃ n, Lasts members p.expiresInField n ∧
          token.expiresAt = now + min (Span.ofSeconds n) (Span.ofSeconds (365 * 24 * 60 * 60))) ∨
        (¬ ∃ n, Lasts members p.expiresInField n) ∧ Token.ofJwt now wall value = .ok token)) ∧
    ∀ token, tokenOf p now wall (.response status body) = .ok token →
      ∃ n < 2 ^ 64, Span.ofSeconds n ≤ Span.longest ∧
        token.expiresAt = Instant.after now (Span.ofSeconds n) ∧
        ∀ c : FiniteClock, c.Shows now → c.Shows (c.after now (Span.ofSeconds n)) ∧
          (now + Span.maxLifetime ≤ c.last →
            c.after now (Span.ofSeconds n) = token.expiresAt) := by
  constructor
  · intro token
    rw [tokenOf_ok success]
    refine exists_congr fun members => exists_congr fun value => and_congr_right fun read =>
      and_congr_right fun member => ⟨fun h => ?_, fun ⟨same, h⟩ => ?_⟩
    · refine ⟨(readToken_expiresAt read member h).1, ?_⟩
      rcases (readToken_member read member).1 h with ⟨n, lasts, rfl⟩ | jwt
      · exact .inl ⟨n, lasts, rfl⟩
      · exact .inr jwt
    · refine (readToken_member read member).2 ?_
      rcases h with ⟨n, lasts, expires⟩ | jwt
      · refine .inl ⟨n, lasts, ?_⟩
        cases token
        cases same
        cases expires
        rfl
      · exact .inr jwt
  · intro token h
    obtain ⟨members, value, read, member, h⟩ := (tokenOf_ok success).1 h
    obtain ⟨-, n, fits, expires⟩ := readToken_expiresAt read member h
    refine ⟨n, fits, ?_, expires, fun c shows => ⟨c.after_shows shows _, fun goes_on => ?_⟩⟩
    · unfold Span.longest Span.ofSeconds
      omega
    · rw [expires, FiniteClock.after_eq goes_on]

/-- A lifetime as a text decides, though the token carries an expiry of its own. -/
theorem tokenOf_response_text :
    let p : Plan := ⟨"http://host/", "GET", none, "access_token", "expires_in", 1⟩
    let jwt := "e30.eyJleHAiOjEwMH0"
    let body := "\x7b\"access_token\":\"e30.eyJleHAiOjEwMH0\",\"expires_in\":\" +60 \"\x7d"
    (200 ≤ 201 ∧ 201 < 300) ∧ Token.ofJwt 5 50 jwt = .ok ⟨jwt, 5 + Span.ofSeconds 50⟩ ∧
    tokenOf p 5 50 (.response 201 body.toUTF8.toList) = .ok ⟨jwt, 5 + Span.ofSeconds 60⟩ ∧
    ∃ members, Value.read body.toUTF8.toList = some (.object members) ∧
      LastMember members "access_token" (.text jwt) ∧ ∃ n, Lasts members "expires_in" n := by
  intro p jwt body
  have success : 200 ≤ 201 ∧ 201 < 300 := by decide
  have carried : Token.ofJwt 5 50 jwt = .ok ⟨jwt, 5 + Span.ofSeconds 50⟩ := by decide +kernel
  have given : tokenOf p 5 50 (.response 201 body.toUTF8.toList) =
      .ok ⟨jwt, 5 + Span.ofSeconds 60⟩ := by decide +kernel
  obtain ⟨members, value, read, member, rfl, lasts | ⟨-, own⟩⟩ :=
    ((tokenOf_response p success 5 50 body.toUTF8.toList).1 _).1 given
  · obtain ⟨n, lasts, -⟩ := lasts
    exact ⟨success, carried, given, members, read, member, n, lasts⟩
  · rw [carried] at own
    exact absurd own (by decide)

end Http
end SingleFlight
