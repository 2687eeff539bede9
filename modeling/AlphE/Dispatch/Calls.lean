import AlphE.Dispatch.Redispatch
import AlphE.Dispatch.Request
import AlphE.Lib.Traced

/-!
The calls the Collectors node makes, to its cache and to the collector, and what it
does of what they raise (`nodes/collectors.py`, `dispatch/http.py`). What comes back
decides which calls are made; the update is the one of `Nodes.collectorsNode`.
-/

namespace AlphE.Dispatch

open Nodes

/-! ### Calls -/

inductive Call
  | cacheGet (cacheKey : String)
  | post (url : String) (content : Collectors.Json) (headers : List (String × String))
  | cachePut (cacheKey incidentId collectorName question : String) (finding : Finding)

/-- What may be raised: `httpx.TimeoutException`, any other `httpx.HTTPError`, any
other `Exception`. -/
inductive Raised
  | timeout (exc : String)
  | httpError (exc : String)
  | other (exc : String)

/-- A `CollectorCache`, by what comes of its calls. -/
structure CacheClient where
  get : String → Except Raised (Option Finding)
  put : (cacheKey incidentId collectorName question : String) → Finding → Except Raised Unit

/-- The arguments of the node and what it reads from its surroundings. A client that
is passed in and one that is made for the call post alike. -/
structure CallEnv where
  now : DateTime
  lower : String → String
  environ : String → Option String
  sha256 : Bytes → String
  dump : DateTime → String
  http : HttpEnv
  cache : Option CacheClient := none
  /-- `CollectorCache(postgres_url)`. -/
  connect : String → CacheClient
  post : String → Collectors.Json → Reply

abbrev Calling := Traced Call Raised

/-! ### The client of the collectors -/

/-- `_ENV_MAP`. -/
def envMap : List (String × String) :=
  [("prom", "COLLECTOR_PROM_URL"), ("loki", "COLLECTOR_LOKI_URL"),
    ("kube", "COLLECTOR_KUBE_URL")]

/-- `_DEFAULT_URLS`. -/
def defaultUrls : List (String × String) :=
  [("prom", "http://localhost:8081"), ("loki", "http://localhost:8082"),
    ("kube", "http://localhost:8083")]

/-- `_endpoint_for`. -/
def endpointFor (environ : String → Option String) (collectorName : String) : String :=
  let envVar := (envMap.lookup collectorName).getD "COLLECTOR_PROM_URL"
  let default := (defaultUrls.lookup collectorName).getD "http://localhost:8081"
  (environ envVar).getD default

def headers : List (String × String) :=
  [("Content-Type", "application/json"), ("Accept", "application/json")]

section Node

variable (env : CallEnv)

def collectUrl (collectorName : String) : String :=
  endpointFor env.environ collectorName ++ "/collect"

/-- `client.post`. -/
def clientPost (url : String) (content : Collectors.Json) :
    Calling (ℕ × Option (Validation.Value DateTime)) :=
  Traced.call (.post url content headers)
    (match env.post url content with
    | .timeout exc => .error (.timeout exc)
    | .httpError exc => .error (.httpError exc)
    | .response status body => .ok (status, body))

/-- `dispatch`, with its request. -/
def dispatchCall (collectorName : String) (payload : CollectorInput) :
    Calling (CollectorOutput ⊕ Finding) :=
  let result := dispatch env.http collectorName payload
  (clientPost env (collectUrl env collectorName) (dumpCollectorInput env.dump payload)).tryElse
    (fun
      | .timeout exc => pure (result (.timeout exc))
      | .httpError exc => pure (result (.httpError exc))
      | .other exc => .raise (.other exc))
    (fun resp => pure (result (.response resp.1 resp.2)))

/-! ### The node -/

/-- `resolved_cache`. -/
def resolvedCache : Option CacheClient :=
  let postgresUrl := (env.environ "POSTGRES_URL").getD ""
  match env.cache with
  | some cache => some cache
  | none => if postgresUrl ≠ "" then some (env.connect postgresUrl) else none

/-- The lookup; what it raises is logged. -/
def cacheLookup (cacheKey : String) : Calling (Option Finding) :=
  match resolvedCache env with
  | none => pure none
  | some cache =>
      (Traced.call (.cacheGet cacheKey) (cache.get cacheKey)).tryElse (fun _ => pure none) pure

/-- The write after an answer; what it raises is logged. -/
def cacheStore (cacheKey collectorName : String) (input : CollectorInput) (finding : Finding) :
    Calling Unit :=
  match resolvedCache env with
  | none => pure ()
  | some cache =>
      (Traced.call (.cachePut cacheKey input.incidentId collectorName input.question finding)
        (cache.put cacheKey input.incidentId collectorName input.question finding)).tryElse
        (fun _ => pure ()) pure

/-- The finding and the event of a request. -/
def obtainCall (cacheKey collectorName : String) (input : CollectorInput) :
    Calling (Finding × String) := do
  match ← cacheLookup env cacheKey with
  | some finding => pure (finding, "collectors.dispatch.cache_hit")
  | none =>
      match ← dispatchCall env collectorName input with
      | .inl output =>
          cacheStore env cacheKey collectorName input output.finding
          pure (output.finding, "collectors.dispatch.success")
      | .inr finding => pure (finding, "collectors.dispatch.failed")

/-- What a lookup comes to. -/
def cachedFinding (cacheKey : String) : Option Finding :=
  match resolvedCache env with
  | none => none
  | some cache =>
      match cache.get cacheKey with
      | .ok found => found
      | .error _ => none

/-- What a request is answered with. -/
def reply (collectorName : String) (payload : CollectorInput) : Reply :=
  env.post (collectUrl env collectorName) (dumpCollectorInput env.dump payload)

/-- The surroundings without the calls. -/
def CallEnv.collectorsEnv : CollectorsEnv where
  now := env.now
  lower := env.lower
  environ := env.environ
  cacheGet collectorName input :=
    cachedFinding env (makeCacheKey env.sha256 (keyComponents collectorName input))
  dispatch collectorName input :=
    dispatch env.http collectorName input (reply env collectorName input)

/-- `collectors_node`, with its calls. -/
def collectorsCalls (state : IncidentState) : Calling StateUpdate :=
  match focusHypothesis state with
  | none =>
      pure
        { timeline := some (state.timeline ++
            [{ ts := env.now
               actor := "orchestrator:collectors"
               eventType := "collectors.dispatch.no_focus" }])
          updatedAt := some env.now }
  | some focus => do
      let collectorName := selectCollector env.lower focus.text
      let input := collectorInput env.collectorsEnv state focus
      let cacheKey := makeCacheKey env.sha256 (keyComponents collectorName input)
      let (finding, eventType) ← obtainCall env cacheKey collectorName input
      pure
        { findings := some
            (if finding.id ∈ state.findings.map Finding.id then state.findings
            else state.findings ++ [finding])
          servicesTouched := some
            (mergeServicesTouched state.servicesTouched input.scopeServices)
          timeline := some (state.timeline ++
            [{ ts := env.now
               actor := "orchestrator:collectors:" ++ collectorName
               eventType := eventType
               refId := some finding.id }])
          updatedAt := some env.now }

/-! ### Which calls are made -/

def lookupCalls (cacheKey : String) : List Call :=
  if (resolvedCache env).isSome then [.cacheGet cacheKey] else []

def postCall (collectorName : String) (input : CollectorInput) : Call :=
  .post (collectUrl env collectorName) (dumpCollectorInput env.dump input) headers

def storeCalls (cacheKey collectorName : String) (input : CollectorInput) (finding : Finding) :
    List Call :=
  if (resolvedCache env).isSome then
    [.cachePut cacheKey input.incidentId collectorName input.question finding]
  else []

theorem returns_cacheLookup (cacheKey : String) :
    (cacheLookup env cacheKey).Returns (cachedFinding env cacheKey) (lookupCalls env cacheKey) := by
  unfold cacheLookup cachedFinding lookupCalls
  cases hcache : resolvedCache env with
  | none => exact Traced.returns_pure none
  | some cache =>
      apply Traced.returns_call_tryElse
      · intro found hfound
        simp only [hfound]
        exact Traced.returns_pure found
      · intro exc hexc
        simp only [hexc]
        exact Traced.returns_pure none

theorem returns_cacheStore (cacheKey collectorName : String) (input : CollectorInput)
    (finding : Finding) :
    (cacheStore env cacheKey collectorName input finding).Returns ()
      (storeCalls env cacheKey collectorName input finding) := by
  unfold cacheStore storeCalls
  cases hcache : resolvedCache env with
  | none => exact Traced.returns_pure ()
  | some cache =>
      apply Traced.returns_call_tryElse
      · intro _ _
        exact Traced.returns_pure ()
      · intro _ _
        exact Traced.returns_pure ()

theorem returns_dispatchCall (collectorName : String) (payload : CollectorInput) :
    (dispatchCall env collectorName payload).Returns
      (dispatch env.http collectorName payload (reply env collectorName payload))
      [postCall env collectorName payload] := by
  unfold dispatchCall clientPost reply
  apply Traced.returns_call_tryElse
  · intro resp hresp
    cases hreply : env.post (collectUrl env collectorName) (dumpCollectorInput env.dump payload)
    with
    | response status body =>
        rw [hreply] at hresp
        cases hresp
        exact Traced.returns_pure _
    | timeout exc =>
        rw [hreply] at hresp
        cases hresp
    | httpError exc =>
        rw [hreply] at hresp
        cases hresp
  · intro raised hraised
    cases hreply : env.post (collectUrl env collectorName) (dumpCollectorInput env.dump payload)
    with
    | response status body =>
        rw [hreply] at hraised
        cases hraised
    | timeout exc =>
        rw [hreply] at hraised
        cases hraised
        exact Traced.returns_pure _
    | httpError exc =>
        rw [hreply] at hraised
        cases hraised
        exact Traced.returns_pure _

/-- The calls of a request, as far as what comes back asks for them. -/
def obtainCalls (cacheKey collectorName : String) (input : CollectorInput) : List Call :=
  lookupCalls env cacheKey ++
    match cachedFinding env cacheKey with
    | some _ => []
    | none =>
        postCall env collectorName input ::
          match dispatch env.http collectorName input (reply env collectorName input) with
          | .inl output => storeCalls env cacheKey collectorName input output.finding
          | .inr _ => []

theorem returns_obtainCall (collectorName : String) (input : CollectorInput) :
    let cacheKey := makeCacheKey env.sha256 (keyComponents collectorName input)
    (obtainCall env cacheKey collectorName input).Returns
      (obtainFinding env.collectorsEnv collectorName input)
      (obtainCalls env cacheKey collectorName input) := by
  intro cacheKey
  apply (returns_cacheLookup env cacheKey).bind
  unfold obtainFinding
  change Traced.Returns _ (match cachedFinding env cacheKey with
    | some finding => (finding, "collectors.dispatch.cache_hit")
    | none => _) _
  cases hcached : cachedFinding env cacheKey with
  | some finding => exact Traced.returns_pure _
  | none =>
      refine Traced.Returns.bind (returns_dispatchCall env collectorName input) ?_
      change Traced.Returns _ (match
        dispatch env.http collectorName input (reply env collectorName input) with
          | .inl output => (output.finding, "collectors.dispatch.success")
          | .inr finding => (finding, "collectors.dispatch.failed")) _
      cases hdispatch : dispatch env.http collectorName input (reply env collectorName input) with
      | inl output =>
          have hstore := returns_cacheStore env cacheKey collectorName input output.finding
          dsimp only
          rw [← List.append_nil (storeCalls env cacheKey collectorName input output.finding)]
          exact hstore.bind (Traced.returns_pure _)
      | inr finding => exact Traced.returns_pure _

/-- The calls make the update of the node. -/
theorem returns_collectorsCalls {state : IncidentState} {focus : Hypothesis}
    (h : focusHypothesis state = some focus) :
    let collectorName := selectCollector env.lower focus.text
    let input := collectorInput env.collectorsEnv state focus
    (collectorsCalls env state).Returns (collectorsNode env.collectorsEnv state)
      (obtainCalls env (makeCacheKey env.sha256 (keyComponents collectorName input))
        collectorName input) := by
  intro collectorName input
  simp only [collectorsCalls, collectorsNode, h]
  rw [← List.append_nil (obtainCalls env _ collectorName input)]
  apply (returns_obtainCall env collectorName input).bind
  exact Traced.returns_pure _

/-! ### What comes back and which calls it asks for -/

/-- The cache returns a finding. -/
def Hit (cacheKey : String) (finding : Finding) : Prop :=
  ∃ cache, resolvedCache env = some cache ∧ cache.get cacheKey = .ok (some finding)

/-- The response is a 2xx that parses. -/
def Accepted (collectorName : String) (input : CollectorInput) (output : CollectorOutput) : Prop :=
  ∃ status body, reply env collectorName input = .response status body ∧
    isSuccess status ∧ modelValidateJson env.http.parse body = .valid output

theorem cachedFinding_eq_some_iff {cacheKey : String} {finding : Finding} :
    cachedFinding env cacheKey = some finding ↔ Hit env cacheKey finding := by
  unfold cachedFinding Hit
  cases hcache : resolvedCache env with
  | none => simp
  | some cache =>
      cases hget : cache.get cacheKey with
      | ok found => simp [hget]
      | error exc => simp [hget]

theorem cachedFinding_eq_none_iff {cacheKey : String} :
    cachedFinding env cacheKey = none ↔ ¬ ∃ finding, Hit env cacheKey finding := by
  simp only [← cachedFinding_eq_some_iff, not_exists]
  exact Option.eq_none_iff_forall_ne_some

theorem dispatch_reply_eq_inl_iff {collectorName : String} {input : CollectorInput}
    {output : CollectorOutput} :
    dispatch env.http collectorName input (reply env collectorName input) = .inl output ↔
      Accepted env collectorName input output := by
  unfold Accepted
  cases hreply : reply env collectorName input with
  | timeout exc => simp [dispatch]
  | httpError exc => simp [dispatch]
  | response status body =>
      cases hsuccess : isSuccess status with
      | false => simp [dispatch, hsuccess]
      | true =>
          cases hvalid : modelValidateJson env.http.parse body with
          | valid a => simp [dispatch, hsuccess, hvalid]
          | invalid errors => simp [dispatch, hsuccess, hvalid]

/-- The collector is asked just when the cache has no answer, and its answer is
written just when it was accepted: after it came, and under the key that was looked
up. -/
structure CleanCalls (cacheKey collectorName : String) (input : CollectorInput)
    (calls : List Call) : Prop where
  post : (∃ url content headers, Call.post url content headers ∈ calls) ↔
    ¬ ∃ finding, Hit env cacheKey finding
  put : (∃ key incidentId name question finding,
      Call.cachePut key incidentId name question finding ∈ calls) ↔
    (resolvedCache env).isSome ∧ (¬ ∃ finding, Hit env cacheKey finding) ∧
      ∃ output, Accepted env collectorName input output
  order : ∀ key incidentId name question finding,
    Call.cachePut key incidentId name question finding ∈ calls →
    ∃ output, Accepted env collectorName input output ∧ finding = output.finding ∧
      calls =
        [.cacheGet key, postCall env collectorName input,
          .cachePut key incidentId name question finding]

theorem mem_lookupCalls {cacheKey : String} {c : Call} (h : c ∈ lookupCalls env cacheKey) :
    c = .cacheGet cacheKey := by
  rw [lookupCalls] at h
  split at h
  · exact List.mem_singleton.mp h
  · cases h

section Clean

variable {env : CallEnv} {cacheKey collectorName : String} {input : CollectorInput}

theorem cleanCalls_of_hit (hhit : ∃ finding, Hit env cacheKey finding) :
    CleanCalls env cacheKey collectorName input (lookupCalls env cacheKey) := by
  refine ⟨?_, ?_, ?_⟩
  · refine iff_of_false ?_ (not_not_intro hhit)
    rintro ⟨url, content, headers, hmem⟩
    cases mem_lookupCalls env hmem
  · refine iff_of_false ?_ fun h => h.2.1 hhit
    rintro ⟨key, incidentId, name, question, f, hmem⟩
    cases mem_lookupCalls env hmem
  · intro key incidentId name question f hmem
    cases mem_lookupCalls env hmem

theorem cleanCalls_of_refused (hmiss : ¬ ∃ finding, Hit env cacheKey finding)
    (hrefused : ¬ ∃ output, Accepted env collectorName input output) :
    CleanCalls env cacheKey collectorName input
      (lookupCalls env cacheKey ++ [postCall env collectorName input]) := by
  have hno : ∀ key incidentId name question f,
      Call.cachePut key incidentId name question f ∉
        lookupCalls env cacheKey ++ [postCall env collectorName input] := by
    intro key incidentId name question f hmem
    obtain hmem | hmem := List.mem_append.mp hmem
    · cases mem_lookupCalls env hmem
    · cases List.mem_singleton.mp hmem
  refine ⟨?_, ?_, ?_⟩
  · exact iff_of_true ⟨_, _, _, List.mem_append_right _ List.mem_cons_self⟩ hmiss
  · refine iff_of_false ?_ fun h => hrefused h.2.2
    rintro ⟨key, incidentId, name, question, f, hmem⟩
    exact hno key incidentId name question f hmem
  · intro key incidentId name question f hmem
    exact absurd hmem (hno key incidentId name question f)

theorem cleanCalls_of_accepted (hmiss : ¬ ∃ finding, Hit env cacheKey finding)
    {output : CollectorOutput} (haccepted : Accepted env collectorName input output) :
    CleanCalls env cacheKey collectorName input
      (lookupCalls env cacheKey ++ postCall env collectorName input ::
        storeCalls env cacheKey collectorName input output.finding) := by
  refine ⟨?_, ?_, ?_⟩
  · exact iff_of_true ⟨_, _, _, List.mem_append_right _ List.mem_cons_self⟩ hmiss
  · unfold lookupCalls storeCalls
    cases hcache : resolvedCache env with
    | none => simp [postCall]
    | some cache =>
        have hput : Call.cachePut cacheKey input.incidentId collectorName input.question
            output.finding ∈ storeCalls env cacheKey collectorName input output.finding := by
          rw [storeCalls, hcache]
          exact List.mem_singleton_self _
        rw [storeCalls, hcache] at hput
        refine iff_of_true ?_ ⟨rfl, hmiss, output, haccepted⟩
        exact ⟨_, _, _, _, _, List.mem_append_right _ (List.mem_cons_of_mem _ hput)⟩
  · unfold lookupCalls storeCalls
    intro key incidentId name question f hmem
    cases hcache : resolvedCache env with
    | none => simp [hcache, postCall] at hmem
    | some cache =>
        simp only [hcache, Option.isSome_some, if_true, List.singleton_append, List.mem_cons,
          postCall, reduceCtorEq, List.not_mem_nil, or_false, false_or] at hmem
        cases hmem
        exact ⟨output, haccepted, rfl, rfl⟩

end Clean

theorem cleanCalls_obtainCalls (cacheKey collectorName : String) (input : CollectorInput) :
    CleanCalls env cacheKey collectorName input
      (obtainCalls env cacheKey collectorName input) := by
  unfold obtainCalls
  cases hcached : cachedFinding env cacheKey with
  | some finding =>
      dsimp only
      rw [List.append_nil]
      exact cleanCalls_of_hit ⟨finding, (cachedFinding_eq_some_iff env).mp hcached⟩
  | none =>
      have hmiss := (cachedFinding_eq_none_iff env).mp hcached
      cases hdispatch : dispatch env.http collectorName input (reply env collectorName input) with
      | inl output =>
          exact cleanCalls_of_accepted hmiss ((dispatch_reply_eq_inl_iff env).mp hdispatch)
      | inr failure =>
          apply cleanCalls_of_refused hmiss
          rintro ⟨output, haccepted⟩
          rw [(dispatch_reply_eq_inl_iff env).mpr haccepted] at hdispatch
          cases hdispatch

/-! ### What is recorded -/

/-- At most one finding is added, at the end, and one event, which refers to a
finding that is there. -/
structure Recorded (state : IncidentState) (update : StateUpdate) : Prop where
  findings : update.findings = some state.findings ∨
    ∃ finding, update.findings = some (state.findings ++ [finding])
  event : ∃ event finding findings,
    update.timeline = some (state.timeline ++ [event]) ∧ update.findings = some findings ∧
      finding ∈ findings ∧ event.refId = some finding.id

theorem recorded_collectorsNode (env : CollectorsEnv) {state : IncidentState}
    {focus : Hypothesis} (h : focusHypothesis state = some focus) :
    Recorded state (collectorsNode env state) := by
  unfold collectorsNode
  simp only [h]
  generalize (obtainFinding env (selectCollector env.lower focus.text)
    (collectorInput env state focus)) = obtained
  obtain ⟨finding, eventType⟩ := obtained
  by_cases hid : finding.id ∈ state.findings.map Finding.id
  · obtain ⟨old, hold, heq⟩ := List.mem_map.mp hid
    refine ⟨.inl (congrArg some (if_pos hid)), _, old, state.findings, rfl, ?_, hold, ?_⟩
    · exact congrArg some (if_pos hid)
    · exact congrArg some heq.symm
  · refine ⟨.inr ⟨finding, congrArg some (if_neg hid)⟩, _, finding,
      state.findings ++ [finding], rfl, ?_, by simp, rfl⟩
    exact congrArg some (if_neg hid)

end Node

/-- **The node returns, and keeps its cache clean.** Whatever the cache and the
collector do, what they raise is handled, the calls are the ones that what comes back
asks for, and the update records the finding. -/
theorem collectorsCalls_clean (env : CallEnv) {state : IncidentState} {focus : Hypothesis}
    (h : focusHypothesis state = some focus) :
    let collectorName := selectCollector env.lower focus.text
    let input := collectorInput env.collectorsEnv state focus
    let cacheKey := makeCacheKey env.sha256 (keyComponents collectorName input)
    ∃ update calls, (collectorsCalls env state).Returns update calls ∧
      CleanCalls env cacheKey collectorName input calls ∧ Recorded state update := by
  intro collectorName input cacheKey
  refine ⟨_, _, returns_collectorsCalls env h, ?_, ?_⟩
  · exact cleanCalls_obtainCalls env cacheKey collectorName input
  · exact recorded_collectorsNode env.collectorsEnv h

/-! ### A cache that is down and a collector that is slow -/

def testDown : CacheClient where
  get _ := .error (.other "connection refused")
  put _ _ _ _ _ := .error (.other "connection refused")

def testCallEnv : CallEnv where
  now := testNow
  lower := id
  environ _ := none
  sha256 := testSha256
  dump := isoformat
  http :=
    { now := testNow, parse := fun _ => none, isprintable := fun _ => true
      text := fun _ => "", formatErrors := fun _ => "" }
  cache := some testDown
  connect _ := testDown
  post _ _ := .timeout ""

theorem collectorsCalls_clean_testCallEnv :
    let input := collectorInput testCallEnv.collectorsEnv testState testHypothesis
    let cacheKey := makeCacheKey testCallEnv.sha256 (keyComponents "prom" input)
    ∃ update calls, (collectorsCalls testCallEnv testState).Returns update calls ∧
      CleanCalls testCallEnv cacheKey "prom" input calls ∧ Recorded testState update :=
  collectorsCalls_clean testCallEnv focusHypothesis_testState

end AlphE.Dispatch
