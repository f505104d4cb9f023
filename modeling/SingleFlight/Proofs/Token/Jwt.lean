import Mathlib.Data.List.DropRight
import Mathlib.Data.List.TakeWhile
import SingleFlight.Proofs.Base64Url
import SingleFlight.Proofs.Token.Claims

/-!
Tokens that carry their expiry, as they are written and as they are read.

`Jwt.Form` says how a text with a point is made up.  Every such text has a form, and reading looks
at nothing but the payload of it (`Form.ofJwt_eq`), so each of the three errors is a property of the
form.  The main statement, `ofJwt_reads_payload`, is that reading undoes writing and refuses all
else for a reason.
-/

namespace SingleFlight
namespace Token
namespace Jwt

/-- A header, a point, the payload and its padding, and then nothing, or another point and whatever
follows. -/
structure Form (text : String) (header payload : List Char) (padding : Nat) (tail : List Char) :
    Prop where
  text_eq : text.toList =
    header ++ '.' :: (payload ++ List.replicate padding '=' ++ tail)
  header_plain : '.' ∉ header
  payload_plain : '.' ∉ payload
  payload_bare : payload.getLast? ≠ some '='
  tail_apart : tail = [] ∨ ∃ rest, tail = '.' :: rest

variable {text : String} {header payload tail segment cs : List Char} {padding : Nat}

/-! ## Segments -/

theorem ne_point (h : '.' ∉ cs) : ∀ c ∈ cs, decide (c ≠ '.') = true := fun c mem => by
  simpa using fun point : c = '.' => h (point ▸ mem)

theorem payload?_of_not_mem (h : '.' ∉ cs) : payload? cs = none := by
  have nothing : cs.dropWhile (· ≠ '.') = [] := List.dropWhile_eq_nil_iff.2 (ne_point h)
  rw [payload?, nothing]

theorem payload?_append (hheader : '.' ∉ header) (hsegment : '.' ∉ segment)
    (htail : tail = [] ∨ ∃ rest, tail = '.' :: rest) :
    payload? (header ++ '.' :: (segment ++ tail)) = some segment := by
  have rest : (header ++ '.' :: (segment ++ tail)).dropWhile (· ≠ '.') =
      '.' :: (segment ++ tail) := by
    rw [List.dropWhile_append_of_pos (ne_point hheader), List.dropWhile_cons_of_neg (by simp)]
  have front : (segment ++ tail).takeWhile (· ≠ '.') = segment := by
    rw [List.takeWhile_append_of_pos (ne_point hsegment)]
    rcases htail with rfl | ⟨more, rfl⟩
    · simp
    · rw [List.takeWhile_cons_of_neg (by simp), List.append_nil]
  rw [payload?, rest]
  exact congrArg some front

theorem unpadded_append (bare : payload.getLast? ≠ some '=') (padding : Nat) :
    unpadded (payload ++ List.replicate padding '=') = payload := by
  rw [unpadded, List.reverse_append, List.reverse_replicate,
    List.dropWhile_append_of_pos (by simp)]
  rcases List.eq_nil_or_concat payload with rfl | ⟨front, last, rfl⟩
  · rfl
  · have other : last ≠ '=' := by simpa using bare
    simp [other]

theorem Form.payload_eq (h : Form text header payload padding tail) :
    (payload? text.toList).map unpadded = some payload := by
  have plain : '.' ∉ payload ++ List.replicate padding '=' := by
    simp [h.payload_plain]
  rw [h.text_eq, payload?_append h.header_plain plain h.tail_apart, Option.map_some,
    unpadded_append h.payload_bare]

/-- A segment is what is left of it without padding, and its padding. -/
theorem exists_padding (segment : List Char) : ∃ padding,
    segment = unpadded segment ++ List.replicate padding '=' ∧
      (unpadded segment).getLast? ≠ some '=' := by
  have bare : unpadded segment = segment.rdropWhile (· = '=') := rfl
  refine ⟨(segment.rtakeWhile (· = '=')).length, ?_, fun last => ?_⟩
  · rw [bare, ← List.eq_replicate_of_mem fun c mem => by simpa using List.mem_rtakeWhile_imp mem,
      List.rdropWhile_append_rtakeWhile]
  · rw [bare] at last
    have some_chars : segment.rdropWhile (· = '=') ≠ [] := by
      rintro none
      simp [none] at last
    have other := List.rdropWhile_last_not (· = '=') segment some_chars
    rw [List.getLast?_eq_some_getLast some_chars] at last
    simp [Option.some.inj last] at other

theorem exists_segments (h : '.' ∈ cs) : ∃ header segment tail,
    cs = header ++ '.' :: (segment ++ tail) ∧ '.' ∉ header ∧ '.' ∉ segment ∧
      (tail = [] ∨ ∃ rest, tail = '.' :: rest) := by
  obtain ⟨header, rest, rfl, hheader⟩ := List.eq_append_cons_of_mem h
  by_cases more : '.' ∈ rest
  · obtain ⟨segment, tail, rfl, hsegment⟩ := List.eq_append_cons_of_mem more
    exact ⟨header, segment, '.' :: tail, rfl, hheader, hsegment, .inr ⟨tail, rfl⟩⟩
  · exact ⟨header, rest, [], by rw [List.append_nil], hheader, more, .inl rfl⟩

theorem exists_form (h : '.' ∈ text.toList) :
    ∃ header payload padding tail, Form text header payload padding tail := by
  obtain ⟨header, segment, tail, htext, hheader, hsegment, htail⟩ := exists_segments h
  obtain ⟨padding, hpadding, bare⟩ := exists_padding segment
  have plain : '.' ∉ unpadded segment := fun mem =>
    hsegment (hpadding ▸ List.mem_append_left _ mem)
  exact ⟨header, unpadded segment, padding, tail, by rw [← hpadding, htext], hheader, plain, bare,
    htail⟩

/-! ## Reading -/

theorem ofJwt_of_not_mem {now : Nat} {wall : Int} (h : '.' ∉ text.toList) :
    ofJwt now wall text = .error .noPayload := by
  rw [ofJwt, payload?_of_not_mem h]

theorem Form.ofJwt_eq {now : Nat} {wall : Int} (h : Form text header payload padding tail) :
    ofJwt now wall text =
      match Base64Url.decode? payload with
      | none => .error .notBase64
      | some bytes =>
        match expiry? bytes with
        | none => .error .noExpiry
        | some expiry => .ok (ofUnixExpiry now wall text expiry) := by
  obtain ⟨segment, found, rfl⟩ := Option.map_eq_some_iff.1 h.payload_eq
  unfold ofJwt
  generalize payload? text.toList = read at found ⊢
  subst found
  rfl

/-- A text that is written so is read so. -/
theorem Form.written {bytes : List UInt8} (hheader : '.' ∉ header)
    (htail : tail = [] ∨ ∃ rest, tail = '.' :: rest)
    (htext : text.toList =
      header ++ '.' :: (Base64Url.encode bytes ++ List.replicate padding '=' ++ tail)) :
    Form text header (Base64Url.encode bytes) padding tail := by
  obtain ⟨plain, bare⟩ := Base64Url.not_mem_encode bytes
  exact ⟨htext, hheader, plain, fun last => bare (List.mem_of_getLast? last), htail⟩

/-- The payload is refused, or its claims are, or the token is the whole text until the second that
they name. -/
theorem Form.ofJwt_cases (h : Form text header payload padding tail) (now : Nat) (wall : Int) :
    (ofJwt now wall text = .error .notBase64 ∧ ∀ bytes, payload ≠ Base64Url.encode bytes) ∨
    (∃ bytes, payload = Base64Url.encode bytes ∧ expiry? bytes = none ∧
      ofJwt now wall text = .error .noExpiry) ∨
    ∃ bytes expiry, payload = Base64Url.encode bytes ∧ expiry? bytes = some expiry ∧
      ofJwt now wall text = .ok (ofUnixExpiry now wall text expiry) := by
  rw [h.ofJwt_eq]
  cases decoded : Base64Url.decode? payload with
  | none =>
    refine .inl ⟨rfl, fun bytes written => ?_⟩
    rw [Base64Url.decode?_eq_some_iff.2 written] at decoded
    cases decoded
  | some bytes =>
    have written := Base64Url.decode?_eq_some_iff.1 decoded
    cases found : expiry? bytes with
    | none => exact .inr (.inl ⟨bytes, written, found, by simp only [found]⟩)
    | some expiry => exact .inr (.inr ⟨bytes, expiry, written, found, by simp only [found]⟩)

theorem Form.ofJwt_notBase64 {now : Nat} {wall : Int}
    (h : Form text header payload padding tail) :
    ofJwt now wall text = .error .notBase64 ↔ ∀ bytes, payload ≠ Base64Url.encode bytes := by
  rcases h.ofJwt_cases now wall with ⟨read, strange⟩ | ⟨bytes, written, -, read⟩ |
    ⟨bytes, expiry, written, -, read⟩
  · exact iff_of_true read strange
  · exact iff_of_false (by simp [read]) fun strange => strange bytes written
  · exact iff_of_false (by simp [read]) fun strange => strange bytes written

theorem Form.ofJwt_noExpiry {now : Nat} {wall : Int}
    (h : Form text header payload padding tail) :
    ofJwt now wall text = .error .noExpiry ↔
      ∃ bytes, payload = Base64Url.encode bytes ∧ expiry? bytes = none := by
  rcases h.ofJwt_cases now wall with ⟨read, strange⟩ | ⟨bytes, written, found, read⟩ |
    ⟨bytes, expiry, written, found, read⟩
  · exact iff_of_false (by simp [read]) fun ⟨bytes, written, _⟩ => strange bytes written
  · exact iff_of_true read ⟨bytes, written, found⟩
  · refine iff_of_false (by simp [read]) fun ⟨bytes', written', missing⟩ => ?_
    obtain rfl := Base64Url.encode_injective (written.symm.trans written')
    simp [found] at missing

end Jwt

open Jwt (Form claims expiry?)

/-- Reading undoes writing, and looks at the payload only.

A token may have any header without a point, any claims that say when it expires, any padding and,
after another point, any text at all.  It is read as a token of the whole text, which expires at the
second of its claims: at once if that has passed, and within a year in any case.  The payload is
written as the bits of its bytes, in sixes, and claims can name every second of 64 bits with a sign
and no other.

Of all other texts each is refused for one reason.  Without a point there is no payload.  With one
the text has a form, and its payload is not written so, or it is and does not say when the token
expires.  Two texts with the same payload are refused alike or expire together. -/
theorem ofJwt_reads_payload (now : Nat) (wall : Int) :
    (∀ (text : String) (header tail : List Char) (bytes : List UInt8) (expiry : Int)
        (padding : Nat), '.' ∉ header → expiry? bytes = some expiry →
      (tail = [] ∨ ∃ rest, tail = '.' :: rest) →
      text.toList =
        header ++ '.' :: (Base64Url.encode bytes ++ List.replicate padding '=' ++ tail) →
      ofJwt now wall text = .ok
        { value := text
          expiresAt := now +
            min (Span.ofSeconds (max (expiry - wall) 0).toNat)
              (Span.ofSeconds (365 * 24 * 60 * 60)) }) ∧
    (∀ bytes, Base64Url.encode bytes =
      (Base64Url.sextets (bytes.flatMap Base64Url.octet)).map Base64Url.letter) ∧
    (∀ expiry, (∃ bytes, expiry? bytes = some expiry) ↔ -2 ^ 63 ≤ expiry ∧ expiry < 2 ^ 63) ∧
    (∀ text, (ofJwt now wall text = .error .noPayload ↔ '.' ∉ text.toList) ∧
      ('.' ∈ text.toList →
        ∃ header payload padding tail, Form text header payload padding tail)) ∧
    ∀ text header payload padding tail, Form text header payload padding tail →
      (ofJwt now wall text = .error .notBase64 ↔ ∀ bytes, payload ≠ Base64Url.encode bytes) ∧
      (ofJwt now wall text = .error .noExpiry ↔
        ∃ bytes, payload = Base64Url.encode bytes ∧ expiry? bytes = none) ∧
      ∀ text' header' padding' tail', Form text' header' payload padding' tail' →
        (ofJwt now wall text').map Token.expiresAt = (ofJwt now wall text).map Token.expiresAt := by
  refine ⟨fun text header tail bytes expiry padding hheader found htail htext => ?_,
    Base64Url.encode_eq_sextets, fun expiry => ⟨fun ⟨bytes, found⟩ => ?_, fun fits => ?_⟩,
    fun text => ⟨⟨fun refused point => ?_, Jwt.ofJwt_of_not_mem⟩, Jwt.exists_form⟩,
    fun text header payload padding tail form =>
      ⟨form.ofJwt_notBase64, form.ofJwt_noExpiry, fun text' header' padding' tail' form' => ?_⟩⟩
  · have form : Form text header (Base64Url.encode bytes) padding tail :=
      Form.written hheader htail htext
    rw [form.ofJwt_eq, Base64Url.decode?_encode]
    simp only [found, ofUnixExpiry, Instant.ofUnix_eq, Span.maxLifetime]
  · have fits := Jwt.bounds_of_expiry? found
    unfold Instant.saturate at fits
    omega
  · exact ⟨claims expiry, Jwt.expiry?_claims (by unfold Instant.saturate; omega)⟩
  · obtain ⟨header, payload, padding, tail, form⟩ := Jwt.exists_form point
    rcases form.ofJwt_cases now wall with ⟨read, -⟩ | ⟨_, -, -, read⟩ | ⟨_, _, -, -, read⟩ <;>
      simp [read] at refused
  · -- Only the value of a token shows the rest of its text.
    rw [form.ofJwt_eq, form'.ofJwt_eq]
    cases Base64Url.decode? payload with
    | none => rfl
    | some bytes =>
      cases found : expiry? bytes with
      | none => simp only [found]
      | some expiry =>
        simp only [found]
        rfl

/-- Padding and a tail with a point change nothing but the value. -/
theorem ofJwt_reads_payload_padded :
    '.' ∉ "e30".toList ∧ expiry? (claims 100) = some 100 ∧
      ofJwt 5 40 "e30.eyJleHAiOjEwMH0=.a.b" = .ok
        { value := "e30.eyJleHAiOjEwMH0=.a.b", expiresAt := 5 + Span.ofSeconds 60 } ∧
      (ofJwt 5 40 ".eyJleHAiOjEwMH0").map Token.expiresAt = .ok (5 + Span.ofSeconds 60) := by
  have plain : '.' ∉ "e30".toList := by decide +kernel
  have found : expiry? (claims 100) = some 100 := Jwt.expiry?_claims (by decide)
  have written : Base64Url.encode (claims 100) = "eyJleHAiOjEwMH0".toList := by
    rw [Jwt.claims_eq]
    decide +kernel
  obtain ⟨read, -, -, -, forms⟩ := ofJwt_reads_payload 5 40
  have padded := read "e30.eyJleHAiOjEwMH0=.a.b" "e30".toList ".a.b".toList (claims 100) 100 1 plain
    found (.inr ⟨"a.b".toList, by decide +kernel⟩) (by rw [written]; decide +kernel)
  refine ⟨plain, found, padded, ?_⟩
  have form : Form "e30.eyJleHAiOjEwMH0=.a.b" "e30".toList (Base64Url.encode (claims 100)) 1
      ".a.b".toList :=
    Form.written plain (.inr ⟨"a.b".toList, by decide +kernel⟩) (by rw [written]; decide +kernel)
  have bare : Form ".eyJleHAiOjEwMH0" [] (Base64Url.encode (claims 100)) 0 [] :=
    Form.written (by decide) (.inl rfl) (by rw [written]; decide +kernel)
  obtain ⟨-, -, alike⟩ := forms _ _ _ _ _ form
  rw [alike _ _ _ _ bare, padded]
  rfl

end Token
end SingleFlight
