import SingleFlight.Http
import SingleFlight.Proofs.Retry

/-!
What a fetch asks for, and how often.

The parameters are either at fault, in one of two ways, or settle everything (`fault_or_settles`,
`plan_eq_ok_iff`).  In the first case nothing is asked.  In the second one request is made after
another, all alike, up to the first reply that gives a token or as many as are allowed
(`fetch_course`): what a reply holds never looks like a fault of the parameters, so that nothing but
a token stops a fetch before.
-/

namespace SingleFlight

namespace ParameterSet

variable {α : Type} [Parameter.Storable α] {s : ParameterSet} {p : Parameter α}

theorem getRequired_of_some {a : α} (h : s.get? p = some a) : s.getRequired p = .ok a := by
  rw [getRequired, h]

theorem getRequired_of_none (h : s.get? p = none) :
    s.getRequired p = .error (.missingParameter p.name) := by
  rw [getRequired, h]

/-- A parameter with a default has a value. -/
theorem exists_get? {a : α} (h : p.default = some a) : ∃ b, s.get? p = some b := by
  rw [get?, h]
  cases (s.value? p.id).bind (@Parameter.Storable.load? α _) with
  | none => exact ⟨a, rfl⟩
  | some b => exact ⟨b, rfl⟩

end ParameterSet

namespace Http

/-! ## Methods -/

/-- The text names the method: in upper case it is the method, and a token. -/
structure Names (name method : String) : Prop where
  upper : ∃ parts, name.toList.mapM upperAscii? = some parts ∧ method.toList = parts.flatten
  nonempty : method.toList ≠ []
  token : ∀ c ∈ method.toList, c.isAlphanum = true ∨ c ∈ tokenSigns

theorem isToken_iff {cs : List Char} : (!cs.isEmpty && cs.all isTokenChar) = true ↔
    cs ≠ [] ∧ ∀ c ∈ cs, c.isAlphanum = true ∨ c ∈ tokenSigns := by
  simp [isTokenChar]

theorem method?_eq_some_iff {name method : String} :
    method? name = some method ↔ Names name method := by
  cases parts : name.toList.mapM upperAscii? with
  | none =>
    have unknown : method? name = none := by simp [method?, parts]
    rw [unknown]
    refine iff_of_false nofun fun h => ?_
    obtain ⟨_, upper, -⟩ := h.upper
    cases parts.symm.trans upper
  | some upper =>
    have found : method? name =
        if !upper.flatten.isEmpty && upper.flatten.all isTokenChar then
          some (String.ofList upper.flatten) else none := by simp [method?, parts]
    rw [found]
    constructor
    · intro h
      split at h
      · rename_i good
        obtain ⟨nonempty, token⟩ := isToken_iff.1 good
        cases h
        rw [← String.toList_ofList (l := upper.flatten)] at nonempty token
        exact ⟨⟨upper, parts, String.toList_ofList⟩, nonempty, token⟩
      · cases h
    · intro h
      obtain ⟨upper', parts', spelled⟩ := h.upper
      obtain rfl : upper = upper' := Option.some.inj (parts.symm.trans parts')
      rw [if_pos (isToken_iff.2 (spelled ▸ ⟨h.nonempty, h.token⟩)), ← spelled,
        String.ofList_toList]

/-! ## Parameters -/

/-- Why nothing can be asked: the method first, and then the place. -/
inductive Fault (parameters : ParameterSet) : ResourceError → Prop where
  | method {name : String} (given : parameters.get? declared.method = some name)
    (unknown : method? name = none) :
    Fault parameters (.configuration ("invalid HTTP method '" ++ name ++ "'"))
  | url {name method : String} (given : parameters.get? declared.method = some name)
    (known : method? name = some method) (missing : parameters.get? declared.url = none) :
    Fault parameters (.missingParameter "token_url")

/-- The parameters say what is to be asked. -/
structure Settles (parameters : ParameterSet) (p : Plan) : Prop where
  url : parameters.get? declared.url = some p.url
  method : ∃ name, parameters.get? declared.method = some name ∧ method? name = some p.method
  authorization : parameters.get? declared.authorization = p.authorization
  tokenField : parameters.get? declared.tokenField = some p.tokenField
  expiresInField : parameters.get? declared.expiresInField = some p.expiresInField
  attempts : parameters.get? declared.attempts = some p.attempts

variable {parameters : ParameterSet} {p : Plan} {e : ResourceError}

theorem Fault.isConfiguration (h : Fault parameters e) : e.isConfiguration = true := by
  cases h <;> rfl

theorem Fault.plan_eq (h : Fault parameters e) : plan parameters = .error e := by
  cases h with
  | method given unknown =>
    rw [plan, ParameterSet.getRequired_of_some given]
    simp [bind, Except.bind, unknown, throw, throwThe, MonadExceptOf.throw]
  | url given known missing =>
    rw [plan, ParameterSet.getRequired_of_some given, ParameterSet.getRequired_of_none missing]
    simp [bind, Except.bind, known]
    rfl

theorem Settles.plan_eq (h : Settles parameters p) : plan parameters = .ok p := by
  obtain ⟨name, given, known⟩ := h.method
  rw [plan, ParameterSet.getRequired_of_some given, ParameterSet.getRequired_of_some h.url,
    ParameterSet.getRequired_of_some h.tokenField,
    ParameterSet.getRequired_of_some h.expiresInField, ParameterSet.getRequired_of_some h.attempts,
    h.authorization]
  simp [bind, Except.bind, known, pure, Except.pure]

/-- The parameters are at fault or settle everything. -/
theorem fault_or_settles (parameters : ParameterSet) :
    (∃ e, Fault parameters e) ∨ ∃ p, Settles parameters p := by
  obtain ⟨name, given⟩ := ParameterSet.exists_get? (s := parameters) (p := declared.method) rfl
  obtain ⟨token, htoken⟩ :=
    ParameterSet.exists_get? (s := parameters) (p := declared.tokenField) rfl
  obtain ⟨field, hfield⟩ :=
    ParameterSet.exists_get? (s := parameters) (p := declared.expiresInField) rfl
  obtain ⟨attempts, hattempts⟩ :=
    ParameterSet.exists_get? (s := parameters) (p := declared.attempts) rfl
  cases known : method? name with
  | none => exact .inl ⟨_, .method given known⟩
  | some method =>
    cases place : parameters.get? declared.url with
    | none => exact .inl ⟨_, .url given known place⟩
    | some url =>
      exact .inr ⟨⟨url, method, _, token, field, attempts⟩, place, ⟨name, given, known⟩, rfl,
        htoken, hfield, hattempts⟩

theorem plan_eq_ok_iff : plan parameters = .ok p ↔ Settles parameters p := by
  refine ⟨fun h => ?_, Settles.plan_eq⟩
  rcases fault_or_settles parameters with ⟨e, fault⟩ | ⟨p', settles⟩
  · cases fault.plan_eq.symm.trans h
  · cases settles.plan_eq.symm.trans h
    exact settles

/-! ## Replies -/

/-- No reply, whatever it holds, is taken for a fault of the parameters. -/
theorem ReplyError.resourceError?_failure (said : Complaints) (error : ReplyError) :
    (error.failure said).resourceError? = none := by
  cases error with
  | transport url causes => exact Failure.resourceError?_ofCauses _ _
  | status code => rfl
  | notJson body => exact Failure.resourceError?_ofCauses _ _
  | noToken field => rfl
  | noLifetime field value cause => exact Failure.resourceError?_ofCauses _ _

theorem ReplyError.not_ofConfiguration (said : Complaints) (error : ReplyError) :
    ¬ (error.failure said).OfConfiguration := by
  rw [Failure.ofConfiguration_iff, Failure.isConfiguration, error.resourceError?_failure]
  exact Bool.false_ne_true

/-- The reply gives a token, at some moment. -/
def GivesToken (p : Plan) (r : Reply) : Prop :=
  ∃ now wall token, tokenOf p now wall r = .ok token

/-- The moment decides on the expiry and on nothing else. -/
theorem ofJwt_value (now now' : Nat) (wall wall' : Int) (value : String) :
    (Token.ofJwt now wall value).map Token.value =
      (Token.ofJwt now' wall' value).map Token.value := by
  unfold Token.ofJwt
  cases Token.Jwt.payload? value.toList with
  | none => rfl
  | some segment =>
    dsimp only
    cases Base64Url.decode? (Token.Jwt.unpadded segment) with
    | none => rfl
    | some bytes =>
      dsimp only
      cases Token.Jwt.expiry? bytes with
      | none => rfl
      | some expiry => simp only [Except.map, Token.ofUnixExpiry]

theorem readToken_value (p : Plan) (now now' : Nat) (wall wall' : Int) (body : Json.Value) :
    (readToken p now wall body).map Token.value =
      (readToken p now' wall' body).map Token.value := by
  unfold readToken
  cases (body.get? p.tokenField).bind Json.Value.text? with
  | none => rfl
  | some value =>
    dsimp only
    cases (body.get? p.expiresInField).bind seconds? with
    | some seconds => simp only [Except.map, Token.expiringIn]
    | none =>
      have same := ofJwt_value now now' wall wall' value
      cases read : Token.ofJwt now wall value <;> cases read' : Token.ofJwt now' wall' value <;>
        simp_all [Except.map]

theorem tokenOf_value (p : Plan) (now now' : Nat) (wall wall' : Int) (r : Reply) :
    (tokenOf p now wall r).map Token.value = (tokenOf p now' wall' r).map Token.value := by
  cases r with
  | unreachable causes => rfl
  | response status body =>
    simp only [tokenOf]
    split
    · cases Json.Value.read body with
      | none => rfl
      | some value => exact readToken_value p now now' wall wall' value
    · rfl

theorem givesToken_iff {p : Plan} {r : Reply} (now : Nat) (wall : Int) :
    GivesToken p r ↔ ∃ token, tokenOf p now wall r = .ok token := by
  refine ⟨fun ⟨now', wall', token, h⟩ => ?_, fun ⟨token, h⟩ => ⟨now, wall, token, h⟩⟩
  have same := tokenOf_value p now now' wall wall' r
  rw [h] at same
  cases found : tokenOf p now wall r with
  | ok token => exact ⟨token, rfl⟩
  | error e =>
    rw [found] at same
    cases same

/-! ## One request after another -/

namespace Fetcher

variable (f : Fetcher) (p : Plan) (asked now : Nat)

/-- The reply to a request of a fetch.  Its requests count from one. -/
def reply (k : Nat) : Reply := f.endpoint (asked + (k - 1)) p.request

/-- A fetch of `n` requests, the `k`th of which is made at `sent k`, and answered as long after as
its reply takes. -/
structure Course (n : Nat) (sent : Nat → Nat) : Prop where
  first : sent 1 = now
  /-- The wait after an answer is that of the backoff, and it ends on a whole millisecond. -/
  next : ∀ k, 1 ≤ k → k < n → sent (k + 1) =
    Instant.tick (sent k + f.latency (asked + (k - 1)) + f.backoff.delay k)
  /-- It is exact after an answer on a whole millisecond. -/
  exact : ∀ k, 1 ≤ k → k < n → 1000000 ∣ sent k + f.latency (asked + (k - 1)) →
    sent (k + 1) = sent k + f.latency (asked + (k - 1)) + f.backoff.delay k
  /-- The first token ends the fetch. -/
  least : ∀ j, IsLeast {k | 1 ≤ k ∧ GivesToken p (f.reply p asked k)} j →
    n = min j (max 1 p.attempts)
  most : (∀ k, 1 ≤ k → ¬ GivesToken p (f.reply p asked k)) → n = max 1 p.attempts

theorem settled_attempt (k sent : Nat) :
    Retry.Settled (f.attempt p asked k sent).2 ↔ GivesToken p (f.reply p asked k) := by
  have answered := givesToken_iff (p := p) (r := f.reply p asked k)
    (sent + f.latency (asked + (k - 1))) (f.wallAt (sent + f.latency (asked + (k - 1))))
  rw [answered]
  unfold attempt reply
  dsimp only
  cases tokenOf p _ _ _ with
  | ok token => exact iff_of_true trivial ⟨token, rfl⟩
  | error e => exact iff_of_false (e.not_ofConfiguration f.said) (by simp)

/-- The instant of a request, whether the fetch comes to it or not. -/
def sent (k : Nat) : Nat :=
  Retry.began (.make p.attempts f.backoff) (f.attempt p asked) now (k - 1)

/-- Where a fetch ends that found out `m` times that one more request is worth it. -/
theorem course_of_calls {m : Nat} (allowed : m ≤ max p.attempts 1 - 1)
    (before : ∀ k, 0 < k → k ≤ m → ¬ GivesToken p (f.reply p asked k))
    (stop : m < max p.attempts 1 - 1 → GivesToken p (f.reply p asked (m + 1))) :
    f.Course p asked now (m + 1) (f.sent p asked now) where
  first := rfl
  next k hk _ := by
    obtain ⟨k, rfl⟩ := Nat.exists_eq_add_of_le' hk
    rfl
  exact k hk _ whole := Retry.began_of_dvd _ (f.attempt p asked) now hk whole
  least j := by
    rintro ⟨⟨hj, gives⟩, least⟩
    have beyond : m < j := by
      by_contra early
      exact before j hj (Nat.le_of_not_lt early) gives
    rcases Nat.lt_or_ge m (max p.attempts 1 - 1) with short | all
    · have reached : j ≤ m + 1 := least ⟨Nat.le_add_left 1 m, stop short⟩
      omega
    · omega
  most never := by
    rcases Nat.lt_or_ge m (max p.attempts 1 - 1) with short | all
    · exact absurd (stop short) (never _ (Nat.le_add_left 1 m))
    · omega

theorem run_course : ∃ n, f.Course p asked now n (f.sent p asked now) ∧
    let run := Retry.run (.make p.attempts f.backoff) (f.attempt p asked) now
    run.calls = (List.range' 1 n).map (f.sent p asked now) ∧
      (run.finish, run.result) = f.attempt p asked n (f.sent p asked now n) := by
  obtain ⟨m, allowed, calls, last, before, stop⟩ := Retry.runFrom_calls
    (.make p.attempts f.backoff) (f.attempt p asked) now (max p.attempts 1 - 1) 0
  simp only [Nat.zero_add, Retry.call, settled_attempt] at calls last before stop
  have counted : List.range' 1 (m + 1) = (List.range' 0 (m + 1)).map (1 + ·) :=
    (List.map_add_range' 0 (m + 1) 1).symm
  refine ⟨m + 1, f.course_of_calls p asked now allowed before stop, ?_, last⟩
  rw [counted, List.map_map]
  refine calls.trans (List.map_congr_left fun k _ => ?_)
  rw [Function.comp, sent, Nat.add_sub_cancel_left]

/-- A fetch whose parameters settle everything is one such course, and ends with what its last reply
comes to. -/
theorem fetch_course {parameters : ParameterSet} (settles : Settles parameters p) :
    ∃ n sent, f.Course p asked now n sent ∧
      let fetched := f.fetch parameters asked now
      fetched.requests = (List.range' 1 n).map (fun k => (sent k, p.request)) ∧
      fetched.lastReply = some (f.reply p asked n) ∧
      fetched.finish = sent n + f.latency (asked + (n - 1)) ∧
      fetched.result = (tokenOf p fetched.finish (f.wallAt fetched.finish)
        (f.reply p asked n)).mapError (ReplyError.failure f.said) := by
  obtain ⟨n, course, calls, last⟩ := f.run_course p asked now
  obtain ⟨finish, result⟩ := Prod.mk.inj last
  refine ⟨n, _, course, ?_⟩
  rw [fetch, settles.plan_eq]
  dsimp only
  rw [calls, finish, result, List.map_map, List.length_map, List.length_range']
  exact ⟨rfl, rfl, rfl, rfl⟩

end Fetcher
end Http
end SingleFlight
