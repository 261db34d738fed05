import Shadowy.Wallet.Bridge

/-! `reset_sync` (shadowy_cli.py, lines 606-725), which bypasses the bridge and asks the node
directly. It walks thirteen reset endpoints in order. Each gets a POST and, when that answers
with another status, a GET; the first answer of 200, 201 or 202 ends the method with a
success object. When no endpoint answers so, three basic endpoints are asked for their status
and a failure object lists every attempt. Request exceptions are caught on every path, so the
method never raises. The loop is a first-success search: what it returns is the first
accepting endpoint of the list, and no request follows the accepting answer. -/

namespace Shadowy.ShadowyWASM

/-- A request sent with `requests` itself: a POST of a JSON body or a GET, with its timeout in
seconds. -/
inductive NodeCall where
  | post (url : String) (json : JVal) (timeout : Nat)
  | get (url : String) (timeout : Nat)
  deriving DecidableEq, Repr

structure NodeResponse where
  statusCode : Nat
  text : String
  deriving DecidableEq, Repr

/-- The node's answer to each direct request: a response, or the text of the
`RequestException` raised. -/
structure Node where
  answer : NodeCall → Except String NodeResponse

/-- Lines 617-631. -/
def resetEndpoints : List String :=
  ["/api/v1/reset", "/api/v1/sync/reset", "/api/v1/blockchain/reset", "/api/v1/debug/reset",
    "/api/v1/admin/reset-sync", "/api/v1/mempool/clear", "/api/v1/chain/restart",
    "/api/v1/sync/restart", "/api/v1/node/restart", "/reset", "/debug/reset", "/restart",
    "/sync/reset"]

/-- Lines 697-701. -/
def basicEndpoints : List String := ["/api/v1/status", "/api/v1/health", "/api/v1/version"]

/-- The body of the POSTs, line 641. -/
def resetBody : JVal := .dict [("force", .bool true), ("reason", .str "chain_stuck")]

/-- `status_code in [200, 201, 202]`. -/
def accepted (code : Nat) : Bool := [200, 201, 202].contains code

/-- How one pass of the loop of lines 635-693 ends: with the method and the response that
make `reset_sync` return, or with the entry appended to `results`. -/
inductive Attempt where
  | reset (method : String) (response : NodeResponse)
  | failed (entry : JVal)
  deriving DecidableEq, Repr

def Attempt.accepted? : Attempt → Option (String × NodeResponse)
  | .reset method response => some (method, response)
  | .failed _ => none

def Attempt.entry? : Attempt → Option JVal
  | .reset _ _ => none
  | .failed entry => some entry

/-- The entry of lines 687-690, for a request that raised. -/
def raisedEntry (endpoint msg : String) : JVal :=
  .dict [("endpoint", .str endpoint), ("error", .str msg)]

/-- Lines 636-693 for one endpoint, with the requests sent. -/
def tryEndpoint (node : Node) (nodeUrl endpoint : String) : Attempt × List NodeCall :=
  let post := NodeCall.post (nodeUrl ++ endpoint) resetBody 30
  let get := NodeCall.get (nodeUrl ++ endpoint) 30
  match node.answer post with
  | .error msg => (.failed (raisedEntry endpoint msg), [post])
  | .ok response =>
    if accepted response.statusCode then (.reset "POST" response, [post])
    else
      match node.answer get with
      | .error msg => (.failed (raisedEntry endpoint msg), [post, get])
      | .ok response =>
        if accepted response.statusCode then (.reset "GET" response, [post, get])
        else (.failed (.dict [("endpoint", .str endpoint), ("status", .int response.statusCode),
          ("error", .str ("HTTP " ++ toString response.statusCode))]), [post, get])

/-- The object of lines 652-659 and 674-681. -/
def resetReply (endpoint method : String) (response : NodeResponse) : JVal :=
  .dict [("success", .bool true), ("message", .str "Chain reset successful"),
    ("endpoint_used", .str endpoint), ("method", .str method),
    ("status_code", .int response.statusCode),
    ("response", if response.text = "" then .none
      else .str (String.mk (response.text.toList.take 500)))]

/-- The loop of lines 635-693 from the `results` so far: the success object of the first
endpoint that answers 200, 201 or 202, or every entry; with the requests sent. The entry the
success path appends to `results` is never read, and is left out. -/
def resetLoop (node : Node) (nodeUrl : String) :
    List String → List JVal → (JVal ⊕ List JVal) × List NodeCall
  | [], results => (.inr results, [])
  | endpoint :: rest, results =>
    match tryEndpoint node nodeUrl endpoint with
    | (.reset method response, sent) => (.inl (resetReply endpoint method response), sent)
    | (.failed entry, sent) =>
      let later := resetLoop node nodeUrl rest (results ++ [entry])
      (later.1, sent ++ later.2)

/-- The entry of lines 707-711. -/
def probeEntry (endpoint : String) (response : NodeResponse) : JVal :=
  .dict [("endpoint", .str endpoint), ("status", .int response.statusCode),
    ("connectivity", .str (if response.statusCode = 200 then "ok" else "issues"))]

/-- The loop of lines 704-714: the entries of the basic endpoints that answered, and the
requests sent. Its handler catches every exception and only prints. -/
def probeLoop (node : Node) (nodeUrl : String) : List String → List JVal × List NodeCall
  | [] => ([], [])
  | endpoint :: rest =>
    let call := NodeCall.get (nodeUrl ++ endpoint) 10
    let later := probeLoop node nodeUrl rest
    match node.answer call with
    | .ok response => (probeEntry endpoint response :: later.1, call :: later.2)
    | .error _ => (later.1, call :: later.2)

/-- The object of lines 716-722. -/
def resetFailure (nodeUrl : String) (results : List JVal) : JVal :=
  .dict [("success", .bool false),
    ("message", .str "No reset endpoints found or chain unresponsive"),
    ("node_url", .str nodeUrl), ("attempted_endpoints", .list results),
    ("suggestion", .str "Chain may need manual restart or different reset method")]

/-- Lines 608-611: the node asked is the argument when it is a non-empty string, otherwise
the URL of `current_client`. -/
def resetTarget (s : Session) (nodeUrl : Option String) : Option String :=
  match nodeUrl with
  | some url => if url = "" then s.currentClient else some url
  | none => s.currentClient

/-- `reset_sync` (lines 606-725): its result and the requests it sent. -/
def resetSync (node : Node) (s : Session) (nodeUrl : Option String) : JVal × List NodeCall :=
  match resetTarget s nodeUrl with
  | none => (errorObject "No node URL specified and no client configured", [])
  | some url =>
    match resetLoop node url resetEndpoints [] with
    | (.inl reply, sent) => (reply, sent)
    | (.inr results, sent) =>
      let probes := probeLoop node url basicEndpoints
      (resetFailure url (results ++ probes.1), sent ++ probes.2)

section Loops

variable (node : Node) (url : String)

theorem tryEndpoint_sent (endpoint : String) :
    (tryEndpoint node url endpoint).2 = .post (url ++ endpoint) resetBody 30 ::
      match node.answer (.post (url ++ endpoint) resetBody 30) with
      | .ok response => if accepted response.statusCode then [] else [.get (url ++ endpoint) 30]
      | .error _ => [] := by
  rcases hp : node.answer (.post (url ++ endpoint) resetBody 30) with msg | response
  · simp [tryEndpoint, hp]
  by_cases ok : accepted response.statusCode
  · simp [tryEndpoint, hp, ok]
  rcases hg : node.answer (.get (url ++ endpoint) 30) with msg | response' <;>
    simp [tryEndpoint, hp, ok, hg]
  split <;> rfl

theorem tryEndpoint_entry {endpoint : String} {entry : JVal}
    (failed : (tryEndpoint node url endpoint).1 = .failed entry) :
    entry.get "endpoint" .none = .ok (.str endpoint) ∧ entry.contains "error" = .ok true := by
  rcases hp : node.answer (.post (url ++ endpoint) resetBody 30) with msg | response
  · simp only [tryEndpoint, hp, Attempt.failed.injEq] at failed
    simp [← failed, raisedEntry, JVal.get, JVal.contains, List.lookup]
  by_cases ok : accepted response.statusCode
  · simp [tryEndpoint, hp, ok] at failed
  rcases hg : node.answer (.get (url ++ endpoint) 30) with msg | response'
  · simp only [tryEndpoint, hp, ok, hg, Bool.false_eq_true, if_false, Attempt.failed.injEq] at failed
    simp [← failed, raisedEntry, JVal.get, JVal.contains, List.lookup]
  by_cases ok' : accepted response'.statusCode
  · simp [tryEndpoint, hp, ok, hg, ok'] at failed
  · simp only [tryEndpoint, hp, ok, hg, ok', Bool.false_eq_true, if_false, Attempt.failed.injEq]
      at failed
    simp [← failed, JVal.get, JVal.contains, List.lookup]

theorem tryEndpoint_sent_length (endpoint : String) : (tryEndpoint node url endpoint).2.length ≤ 2 := by
  rw [tryEndpoint_sent]
  split
  · split <;> simp
  · simp

theorem resetLoop_fst : ∀ (endpoints : List String) (results : List JVal),
    (resetLoop node url endpoints results).1 =
      match endpoints.findSome? (fun e => (tryEndpoint node url e).1.accepted?.map (e, ·)) with
      | some (e, method, response) => .inl (resetReply e method response)
      | none => .inr (results ++ endpoints.filterMap fun e => (tryEndpoint node url e).1.entry?)
  | [], results => by simp [resetLoop]
  | endpoint :: rest, results => by
    rcases h : tryEndpoint node url endpoint with ⟨⟨method, response⟩ | entry, sent⟩
    · simp [resetLoop, h, Attempt.accepted?]
    · simp only [resetLoop, h, resetLoop_fst rest, List.findSome?_cons, Attempt.accepted?,
        Option.map_none', List.filterMap_cons, Attempt.entry?, List.append_assoc,
        List.singleton_append]

theorem resetLoop_snd : ∀ (endpoints : List String) (results : List JVal),
    (resetLoop node url endpoints results).2 =
      (endpoints.takeWhile fun e => (tryEndpoint node url e).1.accepted?.isNone).flatMap
        (fun e => (tryEndpoint node url e).2) ++
      match endpoints.find? (fun e => (tryEndpoint node url e).1.accepted?.isSome) with
      | some e => (tryEndpoint node url e).2
      | none => []
  | [], results => by simp [resetLoop]
  | endpoint :: rest, results => by
    rcases h : tryEndpoint node url endpoint with ⟨⟨method, response⟩ | entry, sent⟩
    · simp [resetLoop, h, Attempt.accepted?]
    · simp [resetLoop, h, resetLoop_snd rest, Attempt.accepted?]

theorem resetLoop_snd_length : ∀ (endpoints : List String) (results : List JVal),
    (resetLoop node url endpoints results).2.length ≤ 2 * endpoints.length
  | [], results => by simp [resetLoop]
  | endpoint :: rest, results => by
    have bound := tryEndpoint_sent_length node url endpoint
    rcases h : tryEndpoint node url endpoint with ⟨⟨method, response⟩ | entry, sent⟩ <;>
      simp only [h] at bound
    · simp only [resetLoop, h, List.length_cons]
      omega
    · have later := resetLoop_snd_length rest (results ++ [entry])
      simp only [resetLoop, h, List.length_append, List.length_cons]
      omega

theorem probeLoop_eq : ∀ endpoints : List String,
    probeLoop node url endpoints =
      (endpoints.filterMap fun e => (node.answer (.get (url ++ e) 10)).toOption.map (probeEntry e),
        endpoints.map fun e => .get (url ++ e) 10)
  | [] => rfl
  | endpoint :: rest => by
    simp only [probeLoop, probeLoop_eq rest, List.filterMap_cons, List.map_cons]
    cases node.answer (.get (url ++ endpoint) 10) <;> rfl

theorem resetLoop_isLeft : ∀ (endpoints : List String) (results : List JVal),
    (resetLoop node url endpoints results).1.isLeft =
      (endpoints.find? fun e => (tryEndpoint node url e).1.accepted?.isSome).isSome
  | [], results => rfl
  | endpoint :: rest, results => by
    rcases h : tryEndpoint node url endpoint with ⟨⟨method, response⟩ | entry, sent⟩
    · simp [resetLoop, h, Attempt.accepted?]
    · simp [resetLoop, h, resetLoop_isLeft rest, Attempt.accepted?]

theorem refused_entries : ∀ {endpoints : List String},
    (∀ e ∈ endpoints, (tryEndpoint node url e).1.accepted? = none) →
      (endpoints.filterMap fun e => (tryEndpoint node url e).1.entry?).map
          (·.get "endpoint" .none) = endpoints.map (fun e => .ok (.str e)) ∧
        ∀ entry ∈ endpoints.filterMap (fun e => (tryEndpoint node url e).1.entry?),
          entry.contains "error" = .ok true
  | [], _ => by simp
  | e :: rest, refused => by
    obtain ⟨named, errors⟩ := refused_entries (fun x hx => refused x (List.mem_cons_of_mem e hx))
    rcases h : (tryEndpoint node url e).1 with ⟨method, response⟩ | entry
    · simp [h, Attempt.accepted?] at refused
    · obtain ⟨name, error⟩ := tryEndpoint_entry node url h
      have kept : (tryEndpoint node url e).1.entry? = some entry := by rw [h]; rfl
      simp only [List.filterMap_cons, kept, List.map_cons, name, named, List.forall_mem_cons]
      exact ⟨trivial, error, errors⟩

theorem probes_named : ∀ endpoints : List String,
    (endpoints.filterMap fun e => (node.answer (.get (url ++ e) 10)).toOption.map (probeEntry e)).map
        (·.get "endpoint" .none) =
      (endpoints.filter fun e => (node.answer (.get (url ++ e) 10)).toOption.isSome).map
        (fun e => .ok (.str e)) ∧
    ∀ probe ∈ endpoints.filterMap (fun e => (node.answer (.get (url ++ e) 10)).toOption.map (probeEntry e)),
      probe.contains "error" = .ok false
  | [] => by simp
  | e :: rest => by
    obtain ⟨named, clean⟩ := probes_named rest
    rcases h : node.answer (.get (url ++ e) 10) with msg | response
    · have gone : (node.answer (.get (url ++ e) 10)).toOption = none := by rw [h]; rfl
      simp only [List.filterMap_cons, List.filter_cons, gone, Option.map_none', Option.isSome_none,
        Bool.false_eq_true, if_false]
      exact ⟨named, clean⟩
    · have got : (node.answer (.get (url ++ e) 10)).toOption = some response := by rw [h]; rfl
      simp only [List.filterMap_cons, List.filter_cons, got, Option.map_some', Option.isSome_some,
        if_true, List.map_cons, List.forall_mem_cons]
      exact ⟨by rw [named]; rfl, rfl, clean⟩

end Loops

section Search

variable (node : Node) (s : Session) (nodeUrl : Option String) {url : String}

/-- `reset_sync` is a first-success search over the reset endpoints. It returns the success
object of the first endpoint that accepts, with the method that was accepted. When none
accepts, it returns the failure object: every endpoint's entry in order, then the entries of
the basic endpoints that answered. -/
theorem resetSync_first_accepting (target : resetTarget s nodeUrl = some url) :
    (resetSync node s nodeUrl).1 =
      match resetEndpoints.findSome? (fun e => (tryEndpoint node url e).1.accepted?.map (e, ·)) with
      | some (e, method, response) => resetReply e method response
      | none => resetFailure url
          ((resetEndpoints.filterMap fun e => (tryEndpoint node url e).1.entry?) ++
            basicEndpoints.filterMap fun e =>
              (node.answer (.get (url ++ e) 10)).toOption.map (probeEntry e)) := by
  have loop := resetLoop_fst node url resetEndpoints []
  simp only [resetSync, target, probeLoop_eq]
  rcases h : resetLoop node url resetEndpoints [] with ⟨reply | results, sent⟩ <;>
    rw [h] at loop <;> split at loop <;> simp_all

/-- A node at the CLI's default URL that answers every request with 405, except the GET of
`/api/v1/sync/reset`, which it accepts. -/
def getResetNode : Node :=
  ⟨fun call => if call = .get "http://127.0.0.1:8080/api/v1/sync/reset" 30 then .ok ⟨200, "reset"⟩
    else .ok ⟨405, ""⟩⟩

theorem resetSync_first_accepting_getReset :
    (resetSync getResetNode ⟨none, none⟩ (some "http://127.0.0.1:8080")).1 =
      resetReply "/api/v1/sync/reset" "GET" ⟨200, "reset"⟩ :=
  (@resetSync_first_accepting getResetNode ⟨none, none⟩ _ "http://127.0.0.1:8080" (by decide)).trans
    (by decide)

/-- The requests `reset_sync` sends: those of the endpoints before the first accepting one,
then those of the accepting one, or, when none accepts, those of all of them and a GET of
each basic endpoint. An endpoint gets its POST, then its GET only when the POST answered with
another status than 200, 201 and 202. That is at most 29 requests. -/
theorem resetSync_requests (target : resetTarget s nodeUrl = some url) :
    (resetSync node s nodeUrl).2 =
      (resetEndpoints.takeWhile fun e => (tryEndpoint node url e).1.accepted?.isNone).flatMap
          (fun e => (tryEndpoint node url e).2) ++
        (match resetEndpoints.find? (fun e => (tryEndpoint node url e).1.accepted?.isSome) with
        | some e => (tryEndpoint node url e).2
        | none => basicEndpoints.map fun e => .get (url ++ e) 10) ∧
    (∀ e, (tryEndpoint node url e).2 = .post (url ++ e) resetBody 30 ::
      match node.answer (.post (url ++ e) resetBody 30) with
      | .ok response => if accepted response.statusCode then [] else [.get (url ++ e) 30]
      | .error _ => []) ∧
    (resetSync node s nodeUrl).2.length ≤ 29 := by
  have found := resetLoop_isLeft node url resetEndpoints []
  have trace := resetLoop_snd node url resetEndpoints []
  have bound := resetLoop_snd_length node url resetEndpoints []
  generalize (resetEndpoints.find? fun e => (tryEndpoint node url e).1.accepted?.isSome) = first
    at found trace
  refine ⟨?_, tryEndpoint_sent node url, ?_⟩ <;> simp only [resetSync, target, probeLoop_eq] <;>
    rcases h : resetLoop node url resetEndpoints [] with ⟨reply | results, sent⟩ <;>
    simp only [h] at found trace bound ⊢
  · cases first <;> simp_all
  · cases first <;> simp_all
  · simp only [resetEndpoints, List.length] at bound
    omega
  · simp only [resetEndpoints, basicEndpoints, List.length, List.length_append, List.length_map]
      at bound ⊢
    omega

theorem resetSync_requests_getReset :
    (resetSync getResetNode ⟨none, none⟩ (some "http://127.0.0.1:8080")).2 =
      [.post "http://127.0.0.1:8080/api/v1/reset" resetBody 30,
        .get "http://127.0.0.1:8080/api/v1/reset" 30,
        .post "http://127.0.0.1:8080/api/v1/sync/reset" resetBody 30,
        .get "http://127.0.0.1:8080/api/v1/sync/reset" 30] :=
  (@resetSync_requests getResetNode ⟨none, none⟩ _ "http://127.0.0.1:8080" (by decide)).1.trans
    (by decide)

/-- When no reset endpoint accepts, the report names each of the thirteen reset endpoints
once and in order, each with an `error`, then each basic endpoint that answered, in order,
without one. -/
theorem resetSync_failure_report (target : resetTarget s nodeUrl = some url)
    (refused : ∀ e ∈ resetEndpoints, (tryEndpoint node url e).1.accepted? = none) :
    ∃ entries probes, (resetSync node s nodeUrl).1 = resetFailure url (entries ++ probes) ∧
      entries.map (·.get "endpoint" .none) = resetEndpoints.map (fun e => .ok (.str e)) ∧
      (∀ entry ∈ entries, entry.contains "error" = .ok true) ∧
      probes.map (·.get "endpoint" .none) =
        (basicEndpoints.filter fun e => (node.answer (.get (url ++ e) 10)).toOption.isSome).map
          (fun e => .ok (.str e)) ∧
      ∀ probe ∈ probes, probe.contains "error" = .ok false := by
  have loop := resetLoop_fst node url resetEndpoints []
  have none : resetEndpoints.findSome? (fun e => (tryEndpoint node url e).1.accepted?.map (e, ·)) =
      none := List.findSome?_eq_none_iff.mpr fun e he => by simp [refused e he]
  obtain ⟨named, errors⟩ := refused_entries node url refused
  obtain ⟨probed, clean⟩ := probes_named node url basicEndpoints
  refine ⟨_, _, ?_, named, errors, probed, clean⟩
  rcases h : resetLoop node url resetEndpoints [] with ⟨reply | results, sent⟩ <;>
    simp only [h, none, Sum.inr.injEq, List.nil_append, reduceCtorEq] at loop
  simp [resetSync, target, h, probeLoop_eq, loop]

def refusingNode : Node := ⟨fun _ => .error "Connection refused"⟩

theorem resetSync_failure_report_refused :
    ∃ entries probes,
      (resetSync refusingNode ⟨none, none⟩ (some "http://127.0.0.1:8080")).1 =
        resetFailure "http://127.0.0.1:8080" (entries ++ probes) ∧
      entries.map (·.get "endpoint" .none) = resetEndpoints.map (fun e => .ok (.str e)) ∧
      (∀ entry ∈ entries, entry.contains "error" = .ok true) ∧
      probes.map (·.get "endpoint" .none) =
        (basicEndpoints.filter fun e =>
          (refusingNode.answer (.get ("http://127.0.0.1:8080" ++ e) 10)).toOption.isSome).map
          (fun e => .ok (.str e)) ∧
      ∀ probe ∈ probes, probe.contains "error" = .ok false :=
  resetSync_failure_report refusingNode ⟨none, none⟩ _ (by decide) (by decide)

end Search

end Shadowy.ShadowyWASM
