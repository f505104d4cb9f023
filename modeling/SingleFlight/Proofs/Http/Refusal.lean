import SingleFlight.Proofs.Http.Fetching
import SingleFlight.Proofs.TokenCache.Sources

/-!
Faults of the parameters, from the fetch to the reader.

A fetch whose parameters are at fault asks for nothing and takes no time, and the fault is all that
is ever told of these parameters: by a keyed cache, and by a token cache over it.  Every other
failure comes from a reply, and is a fetch error.
-/

namespace SingleFlight
namespace Http

open TokenCache (Clock)

variable {parameters : ParameterSet} {p : Plan} {e : ResourceError}

theorem Fault.not_settles (fault : Fault parameters e) (p : Plan) : ¬ Settles parameters p := by
  intro settles
  cases fault.plan_eq.symm.trans settles.plan_eq

theorem Fault.unique (fault : Fault parameters e) {e' : ResourceError}
    (other : Fault parameters e') : e' = e :=
  Except.error.inj (other.plan_eq.symm.trans fault.plan_eq)

theorem ReplyError.not_isConfiguration (said : Complaints) (error : ReplyError)
    (parameters : String) : ((error.failure said).classify parameters).isConfiguration = false := by
  have plain := error.resourceError?_failure said
  unfold Failure.resourceError? at plain
  unfold Failure.classify
  split at plain
  · cases plain
  · rfl

/-- The request asks for what the parameters say. -/
structure Asks (parameters : ParameterSet) (request : Request) : Prop where
  url : parameters.get? declared.url = some request.url
  method : ∃ name, parameters.get? declared.method = some name ∧ Names name request.method
  authorization : parameters.get? declared.authorization = request.authorization

theorem Settles.asks (h : Settles parameters p) : Asks parameters p.request := by
  obtain ⟨name, given, known⟩ := h.method
  exact ⟨h.url, ⟨name, given, method?_eq_some_iff.1 known⟩, h.authorization⟩

namespace Fetcher

variable (f : Fetcher)

theorem fetch_fault (fault : Fault parameters e) (asked now : Nat) :
    f.fetch parameters asked now =
      { requests := [], lastReply := none, finish := now
        result := .error (Failure.ofResourceError e) } := by
  rw [fetch, fault.plan_eq]

/-- The call of a source that fails at once, and leaves the endpoint alone. -/
theorem source_fault (fault : Fault parameters e) (asked fetches now : Nat) :
    f.source.call (asked, fetches) parameters now =
      ({ due := now
         severs := false
         ending := fun env => (env, .returned (.error (Failure.ofResourceError e))) },
        (asked, fetches + 1)) := by
  simp only [source, f.fetch_fault fault]
  rfl

theorem certain_of_fault (fault : Fault parameters e) :
    f.source.Certain parameters (.returned (.error (Failure.ofResourceError e))) := by
  rintro ⟨asked, fetches⟩ now env
  rw [f.source_fault fault]

theorem source_due (asked fetches now : Nat) :
    (f.source.call (asked, fetches) parameters now).1.due =
      (f.fetch parameters asked now).finish := rfl

theorem source_ending (asked fetches now : Nat) (env : Surroundings) :
    (f.source.call (asked, fetches) parameters now).1.ending env =
      (env, .returned ((f.fetch parameters asked now).result.map fun token =>
        token.toResource fetches)) := rfl

end Fetcher

/-- Faults of the parameters cost nothing and reach the reader as they are; everything else is tried
again.

The parameters are at fault, in one way, or settle all that a request needs.  At fault, a fetch is
over at once and has asked for nothing.  Whoever asks a cache over the fetcher for these parameters
is told the fault and nothing else, and can be told it; the same holds of the readers of a token
cache, which holds no token and arms no timer.

Otherwise a fetch is a course of requests that are all alike, with the method, the place and the
authorization that the parameters say, up to the first reply that gives a token or as many as are
allowed, each as long after the answer before as the backoff says.  It ends with the token of its
last reply, as a sensitive resource that is valid until the token expires, or with the error of that
reply, whatever the decoders say of it.  No error of a reply is taken for a fault of the parameters.

A text names a method if it is a token in upper case: not empty, and of letters, digits and a few
signs. -/
theorem fetch_refuses_or_asks (f : Fetcher) (parameters : ParameterSet) :
    ((∃ e, Fault parameters e) ∨ ∃ p, Settles parameters p) ∧
    (∀ e, Fault parameters e → (∀ p, ¬ Settles parameters p) ∧
      (∀ e', Fault parameters e' → e' = e) ∧ e.isConfiguration = true ∧
      (∀ asked fetches now,
        f.fetch parameters asked now =
          { requests := [], lastReply := none, finish := now
            result := .error (Failure.ofResourceError e) } ∧
        f.source.call (asked, fetches) parameters now =
          ({ due := now
             severs := false
             ending := fun env => (env, .returned (.error (Failure.ofResourceError e))) },
            (asked, fetches + 1))) ∧
      (∀ (ι : Type) [DecidableEq ι] (describe : ParameterSet → String)
        (world : Surroundings → Cache.State ι ParameterSet Token → Surroundings → Prop) moves env s,
        (Cache.system describe world).Run moves env s →
        (∀ m ∈ moves, Cache.Sourced f.source m.env m.before m.event) →
        (∀ m ∈ moves, ∀ caller n o, .answered caller parameters n o ∈ m.notes → o = .error e) ∧
        ∀ caller, s.callers.get? caller = none →
          ∃ span env' s', (Cache.system describe world).Path env s span env' s' ∧
            (∀ m ∈ span, Cache.Sourced f.source m.env m.before m.event) ∧
            ∃ m ∈ span, ∃ n, .answered caller parameters n (.error e) ∈ m.notes) ∧
      ∀ cfg : TokenCache.Config, cfg.parameters = parameters → ∀ moves env s,
        (TokenCache.system cfg Clock).Run moves env s →
        (∀ m ∈ moves, TokenCache.Sourced f.source m) →
        s.held = none ∧ s.timer = none ∧
        (∀ m ∈ moves, ∀ n result, .answered n result ∈ m.notes → result = .error e) ∧
        ∀ n, s.holder = none → s.callers.get? n = none → 0 < s.handles →
          ∃ span env' s', (TokenCache.system cfg Clock).Path env s span env' s' ∧
            (∀ m ∈ span, TokenCache.Sourced f.source m) ∧
            ∃ m ∈ span, .answered n (.error e) ∈ m.notes) ∧
    (∀ p, Settles parameters p → ∀ asked fetches now, ∃ n sent, f.Course p asked now n sent ∧
      let fetched := f.fetch parameters asked now
      let call := f.source.call (asked, fetches) parameters now
      fetched.requests = (List.range' 1 n).map (fun k => (sent k,
        { method := p.method, url := p.url, authorization := p.authorization })) ∧
      (∀ request ∈ fetched.requests, Asks parameters request.2) ∧
      (∀ k, f.reply p asked k = f.endpoint (asked + (k - 1))
        { method := p.method, url := p.url, authorization := p.authorization }) ∧
      fetched.lastReply = some (f.reply p asked n) ∧
      fetched.finish = sent n + f.latency (asked + (n - 1)) ∧ call.1.due = fetched.finish ∧
      fetched.result = (tokenOf p fetched.finish (f.wallAt fetched.finish)
        (f.reply p asked n)).mapError (ReplyError.failure f.said) ∧
      (∀ token, fetched.result = .ok token → ∃ r : Resource Token,
        (∀ env, call.1.ending env = (env, .returned (.ok r))) ∧
        r.value = token ∧ r.sensitive = true ∧ r.validity = .expiresAt token.expiresAt) ∧
      ∀ failure, fetched.result = .error failure →
        ∀ env, call.1.ending env = (env, .returned (.error failure))) ∧
    (∀ (error : ReplyError) text, ¬ (error.failure f.said).OfConfiguration ∧
      ((error.failure f.said).classify text).isConfiguration = false) ∧
    ∀ name method, method? name = some method ↔ Names name method := by
  refine ⟨fault_or_settles parameters, fun e fault => ⟨fault.not_settles,
    fun e' => fault.unique, fault.isConfiguration, fun asked fetches now =>
      ⟨f.fetch_fault fault asked now, f.source_fault fault asked fetches now⟩,
    ?cache, ?token⟩, ?settled, fun error text =>
      ⟨error.not_ofConfiguration f.said, error.not_isConfiguration f.said text⟩,
    fun name method => method?_eq_some_iff⟩
  case cache =>
    intro ι _ describe world moves env s run sourced
    have certain := f.certain_of_fault fault
    exact ⟨fun m hm caller n o ha => Cache.answered_certain run certain sourced hm ha,
      fun caller free => Cache.can_be_told run certain sourced (0, 0) free⟩
  case token =>
    rintro cfg rfl moves env s run sourced
    have certain := f.certain_of_fault fault
    obtain ⟨held, timer⟩ := TokenCache.unheld run certain sourced
    exact ⟨held, timer,
      fun m hm n result ha => TokenCache.failure_answered run certain sourced hm ha,
      fun n => TokenCache.can_be_refused run certain sourced (0, 0)⟩
  case settled =>
    intro p settles asked fetches now
    obtain ⟨n, sent, course, requests, reply, finish, result⟩ := f.fetch_course p asked now settles
    refine ⟨n, sent, course, requests, fun request hrequest => ?_, fun k => rfl, reply, finish,
      f.source_due .., result, fun token ok => ?_, fun failure failed env => ?_⟩
    · rw [requests] at hrequest
      obtain ⟨k, -, rfl⟩ := List.mem_map.1 hrequest
      exact settles.asks
    · refine ⟨token.toResource fetches, fun env => ?_, rfl, rfl, rfl⟩
      rw [f.source_ending, ok]
      rfl
    · rw [f.source_ending, failed]
      rfl

/-- Without a place to ask a reader is told so.  With one, the response that an endpoint gives after
it was out of service is asked for by the second request. -/
theorem fetch_refuses_or_asks_twice :
    let body := "\x7b\"access_token\":\"t\",\"expires_in\":60\x7d"
    let f : Fetcher :=
      { endpoint := .ofResponses [(503, []), (200, body.toUTF8.toList)]
        backoff := { base := 100, limit := 1000 }
        wall := 0 }
    let cfg : TokenCache.Config :=
      { name := "token", parameters := .empty, lead := 10, backoff := f.backoff }
    let addressed := (ParameterSet.empty.add declared.url "http://host/").add declared.attempts 3
    Fault .empty (.missingParameter "token_url") ∧
    (∃ span env s, (TokenCache.system cfg Clock).Path .start .start span env s ∧
      (∀ m ∈ span, TokenCache.Sourced f.source m) ∧
      ∃ m ∈ span, .answered 0 (.error (.missingParameter "token_url")) ∈ m.notes) ∧
    ∃ p, Settles addressed p ∧ (f.fetch addressed 0 0).requests.map Prod.snd =
      List.replicate 2 { method := "GET", url := "http://host/", authorization := none } := by
  intro body f cfg addressed
  have fault : Fault .empty (.missingParameter "token_url") := .url rfl rfl rfl
  obtain ⟨-, -, -, -, -, token⟩ := (fetch_refuses_or_asks f .empty).2.1 _ fault
  obtain ⟨-, -, -, told⟩ := token cfg rfl [] .start .start ⟨_, .nil⟩ (List.forall_mem_nil _)
  let p : Plan := ⟨"http://host/", "GET", none, "access_token", "expires_in", 3⟩
  have settles : Settles addressed p := plan_eq_ok_iff.1 (by decide +kernel)
  obtain ⟨n, sent, course, requests, -⟩ :=
    (fetch_refuses_or_asks f addressed).2.2.1 p settles 0 0 0
  have first : ¬ GivesToken p (f.reply p 0 1) := by
    rw [givesToken_iff 0 0]
    rintro ⟨token, ⟨⟩⟩
  have second : GivesToken p (f.reply p 0 2) := ⟨0, 0, ⟨"t", Span.ofSeconds 60⟩, by decide +kernel⟩
  have two : n = min 2 (max 1 3) := by
    refine course.least 2 ⟨⟨by decide, second⟩, fun k ⟨hk, gives⟩ => ?_⟩
    by_contra early
    obtain rfl : k = 1 := by omega
    exact first gives
  refine ⟨fault, told 0 rfl rfl (by decide), p, settles, ?_⟩
  rw [requests, two]
  rfl

end Http
end SingleFlight
