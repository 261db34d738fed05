import Shadowy.Balance.CheckBalance

/-! The HTTP façade of `balance_api.py` (lines 10-59, 110-114). `do_GET` picks a handler from
the request path, `handle_balance_request` answers with the balance and `send_404` with
`Not Found`. A handler is modelled by what it writes on the connection, in order, and
whether it returns; `send_error` of `http.server` writes one whole error page. Prints are
left out. -/

namespace Shadowy.BalanceHandler

/-- The handler `do_GET` calls. -/
inductive Route where
  | balance (address : String)
  | notFound
  deriving DecidableEq, Repr

/-- `do_GET` (lines 11-27), by the handler it calls for `self.path`; `str.split('/')` is
`List.splitOn '/'` on the characters. -/
def doGET (path : String) : Route :=
  let parts := (path.toList.splitOn '/').map String.mk
  if "/api/v1/address/".toList.isPrefixOf path.toList then
    if h : 5 ≤ parts.length then
      if parts[4] = "balance" then .balance parts[3] else .notFound
    else .notFound
  else .notFound

theorem splitOn_head (r : List Char) :
    (r.splitOn '/').head? = some (r.takeWhile fun c => !(c == '/')) := by
  induction r with
  | nil => rfl
  | cons c r ih =>
    simp only [List.splitOn, List.splitOnP_cons, List.takeWhile_cons] at ih ⊢
    by_cases slash : c = '/'
    · simp [slash]
    · rcases h : r.splitOnP (· == '/') with _ | ⟨w, ws⟩
      · exact absurd h (List.splitOnP_ne_nil _ _)
      · simp_all

theorem splitOn_api (r : List Char) :
    ("/api/v1/address/".toList ++ r).splitOn '/' =
      [[], "api".toList, "v1".toList, "address".toList] ++ r.splitOn '/' := by
  simp [List.splitOn, List.splitOnP_cons]

theorem takeWhile_slash {seg r : List Char} (noSlash : ∀ c ∈ seg, c ≠ '/') :
    r.takeWhile (fun c => !(c == '/')) = seg ↔
      ∃ rest, r = seg ++ rest ∧ (rest = [] ∨ rest.head? = some '/') := by
  constructor
  · rintro taken
    refine ⟨r.dropWhile (fun c => !(c == '/')),
      by rw [← taken, List.takeWhile_append_dropWhile], ?_⟩
    have stop := List.head?_dropWhile_not (fun c => !(c == '/')) r
    rcases h : (r.dropWhile fun c => !(c == '/')) with _ | ⟨c, cs⟩
    · exact .inl rfl
    · simp_all
  · rintro ⟨rest, rfl, stop⟩
    rw [List.takeWhile_append_of_pos (by simpa using noSlash)]
    rcases stop with rfl | stop
    · simp
    · obtain ⟨cs, rfl⟩ : ∃ cs, rest = '/' :: cs := by
        cases rest <;> simp_all
      simp

theorem doGET_eq_balance (path address : String) :
    doGET path = .balance address ↔ address = "address" ∧
      ∃ rest, path.toList = "/api/v1/address/balance".toList ++ rest ∧
        (rest = [] ∨ rest.head? = some '/') := by
  have whole : "/api/v1/address/balance".toList = "/api/v1/address/".toList ++ "balance".toList :=
    rfl
  by_cases pre : "/api/v1/address/".toList.isPrefixOf path.toList
  · obtain ⟨r, hr⟩ := List.isPrefixOf_iff_prefix.mp pre
    rcases hs : r.splitOn '/' with _ | ⟨seg, segs⟩
    · exact absurd hs (List.splitOnP_ne_nil _ _)
    have head : r.takeWhile (fun c => !(c == '/')) = seg := by
      simpa [hs] using (splitOn_head r).symm
    have route : doGET path = if seg = "balance".toList then .balance "address" else .notFound := by
      have parts : (path.toList.splitOn '/').map String.mk =
          ["", "api", "v1", "address", String.mk seg] ++ segs.map String.mk := by
        rw [← hr, splitOn_api, hs]; rfl
      simp only [doGET, pre, parts, if_true]
      simp [String.ext_iff]
    have below := @takeWhile_slash "balance".toList r (by decide)
    rw [head] at below
    rw [route, ← hr, whole]
    simp only [List.append_assoc, List.append_cancel_left_eq, ← below]
    by_cases balance : seg = "balance".toList
    · rw [if_pos balance]; simp [balance, eq_comm]
    · rw [if_neg balance]; simpa using fun _ => balance
  · simp only [doGET, pre, Bool.false_eq_true, if_false, reduceCtorEq, false_iff, not_and,
      not_exists]
    rintro - rest hpath -
    exact pre (List.isPrefixOf_iff_prefix.mpr ⟨"balance".toList ++ rest, by rw [hpath, whole,
      List.append_assoc]⟩)

/-- The object of lines 39-53 by what it is computed from: its float fields are the balance
over 10^8, the others the address, the balance, the reward count and constants. -/
structure BalanceReply where
  address : String
  balanceSatoshis : Int
  transactionCount : Nat
  deriving DecidableEq, Repr

/-- What a handler writes on the connection. `status` is `send_response`, with the `Server`
and `Date` headers it adds; `error` is a whole page of `send_error`. -/
inductive Write where
  | status (code : Nat)
  | header (name value : String)
  | endHeaders
  | text (content : String)
  | json (reply : BalanceReply)
  | error (code : Nat) (message : String)
  deriving DecidableEq, Repr

/-- Whether every character fits latin-1, the encoding of a status line. -/
def latin1 (s : String) : Bool := s.toList.all (·.toNat < 256)

/-- `send_error(code, message)` of `http.server`. The status line is encoded as latin-1, so a
message holding a character past U+00FF raises `UnicodeEncodeError` before anything is
written. -/
def sendError (code : Nat) (message : String) : List Write × Bool :=
  if latin1 message then ([.error code message], true) else ([], false)

/-- `send_404` (lines 110-114). -/
def send404 : List Write :=
  [.status 404, .header "Content-Type" "text/plain", .endHeaders, .text "Not Found"]

/-- Lines 34-37: the status line and the headers, written out by `end_headers`. -/
def okHeaders : List Write :=
  [.status 200, .header "Content-Type" "application/json",
    .header "Access-Control-Allow-Origin" "*", .endHeaders]

/-- `handle_balance_request` (lines 29-59). The body is built after the headers are out, and
its first float, `balance / 100000000.0`, converts the balance to a float. -/
def handleBalanceRequest (rt : Runtime) (rpc : Rpc) (address : String) : List Write × Bool :=
  match calculateBalance rt rpc address with
  | .error e => sendError 500 ("Error calculating balance: " ++ e.str)
  | .ok balanceInfo =>
    match intToFloat balanceInfo.balance with
    | .ok () =>
      (okHeaders ++ [.json ⟨address, balanceInfo.balance, balanceInfo.miningRewards⟩], true)
    | .error e => Prod.map (okHeaders ++ ·) id (sendError 500 ("Error calculating balance: " ++ e.str))

/-- What a GET request writes: `do_GET` and the handler it calls. -/
def serve (rt : Runtime) (rpc : Rpc) (path : String) : List Write × Bool :=
  match doGET path with
  | .balance address => handleBalanceRequest rt rpc address
  | .notFound => (send404, true)

/-- Where a response starts: a status line, or a whole error page. -/
def Write.startsResponse : Write → Bool
  | .status _ | .error _ _ => true
  | _ => false

def responses (writes : List Write) : Nat := (writes.filter Write.startsResponse).length

theorem handleBalanceRequest_one_response (rt : Runtime) (rpc : Rpc) (address : String) :
    responses (handleBalanceRequest rt rpc address).1 = 1 ↔
      (∀ t, calculateBalance rt rpc address = .ok t → trueDivOverflows t.balance 1 = false) ∧
      ∀ e, calculateBalance rt rpc address = .error e →
        latin1 ("Error calculating balance: " ++ e.str) = true := by
  have overflow : latin1 ("Error calculating balance: " ++
      (PyExc.overflowError "int too large to convert to float").str) = true := by decide
  rcases hc : calculateBalance rt rpc address with e | t
  · by_cases fits : latin1 ("Error calculating balance: " ++ e.str) <;>
      simp [handleBalanceRequest, hc, sendError, fits, responses, Write.startsResponse]
  · cases big : trueDivOverflows t.balance 1 <;>
      simp [handleBalanceRequest, hc, intToFloat, big, sendError, overflow, responses, okHeaders,
        Write.startsResponse]

set_option maxRecDepth 8000 in
set_option exponentiation.threshold 1100 in
/-- A chain paying `S` one reward of 2^1024 satoshis: the 200 status line and headers go out,
the body's float conversion raises, and a 500 page follows them. -/
theorem huge_balance_sends_error_after_ok :
    handleBalanceRequest Reference.runtime (Rpc.ofBlocks [[CheckBalance.hugeRewardRecord]]) "S" =
      (okHeaders ++ [.error 500 "Error calculating balance: int too large to convert to float"],
        true) := by
  decide

/-- The path the server's start-up banner gives as its example is answered `404`, and
`/api/v1/address/balance` is answered with the balance of the address `address`. -/
theorem banner_example_path_not_found (rt : Runtime) (rpc : Rpc) :
    doGET "/api/v1/address/S427a724d41e3a5a03d1f83553134239813272bc2c4b2d50737/balance" =
      .notFound ∧
    serve rt rpc "/api/v1/address/S427a724d41e3a5a03d1f83553134239813272bc2c4b2d50737/balance" =
      (send404, true) ∧
    doGET "/api/v1/address/balance" = .balance "address" := by
  have notFound : doGET
      "/api/v1/address/S427a724d41e3a5a03d1f83553134239813272bc2c4b2d50737/balance" = .notFound := by
    decide
  exact ⟨notFound, by simp only [serve, notFound], by decide⟩

/-- The paths `do_GET` hands to the balance handler: `/api/v1/address/balance`, alone or
followed by `/`. -/
def balancePath (path : String) : Bool :=
  "/api/v1/address/balance".toList.isPrefixOf path.toList &&
    match path.toList.drop "/api/v1/address/balance".length with
    | [] => true
    | c :: _ => c == '/'

theorem balancePath_iff (path : String) : balancePath path = true ↔
    ∃ rest, path.toList = "/api/v1/address/balance".toList ++ rest ∧
      (rest = [] ∨ rest.head? = some '/') := by
  constructor
  · intro h
    simp only [balancePath, Bool.and_eq_true] at h
    obtain ⟨pre, after⟩ := h
    obtain ⟨rest, hr⟩ := List.isPrefixOf_iff_prefix.mp pre
    refine ⟨rest, hr.symm, ?_⟩
    have drop : path.toList.drop "/api/v1/address/balance".length = rest := by
      rw [← hr]; exact List.drop_left' rfl
    rw [drop] at after
    rcases rest with _ | ⟨c, cs⟩
    · exact .inl rfl
    · simp_all
  · rintro ⟨rest, hr, stop⟩
    have drop : path.toList.drop "/api/v1/address/balance".length = rest := by
      rw [hr]; exact List.drop_left' rfl
    simp only [balancePath, hr, drop, List.prefix_append, List.isPrefixOf_iff_prefix.mpr,
      Bool.true_and]
    rcases stop with rfl | stop
    · rfl
    · obtain ⟨cs, rfl⟩ : ∃ cs, rest = '/' :: cs := by cases rest <;> simp_all
      rfl

theorem doGET_eq (path : String) :
    doGET path = if balancePath path then .balance "address" else .notFound := by
  by_cases routed : balancePath path
  · rw [if_pos routed]
    exact (doGET_eq_balance path "address").mpr ⟨rfl, (balancePath_iff path).mp routed⟩
  · rw [if_neg routed]
    rcases h : doGET path with address | _
    · exact absurd ((balancePath_iff path).mpr ((doGET_eq_balance path address).mp h).2) routed
    · rfl

/-- The service end to end. On a well-formed chain whose ground-truth balance for the
address `address` fits a float, a path under `/api/v1/address/balance` gets the 200 headers
and one body with that balance and the number of outputs paying the address; every other
path gets the 404 page. -/
theorem serve_reports_groundTruth (rt : Runtime) (rpc : Rpc) (n : Nat)
    (height : latestHeight rt rpc.status = .ok n)
    (wf : ∀ h ∈ List.range' 1 n, GroundTruth.wellFormedBlock rt "address" (rpc.block h))
    (fits : trueDivOverflows (GroundTruth.groundTruth rt rpc "address" n) 1 = false)
    (path : String) :
    serve rt rpc path =
      if balancePath path then
        (okHeaders ++ [.json ⟨"address", GroundTruth.groundTruth rt rpc "address" n,
          ((List.range' 1 n).map fun h => ((GroundTruth.records (rpc.block h)).map
            (GroundTruth.payingOutputs rt "address")).sum).sum⟩], true)
      else (send404, true) := by
  rw [serve, doGET_eq]
  by_cases routed : balancePath path
  · simp only [routed, if_true, handleBalanceRequest,
      calculateBalance_of_wellFormed rt rpc "address" n height wf, intToFloat, fits,
      Bool.false_eq_true, if_false]
  · simp only [routed, if_false, Bool.false_eq_true]

/-- A coinbase signed by `address` whose inner transaction is
`{"outputs":[{"address":"address","value":5}]}`. -/
def addressRewardRecord : JVal := .str ("eyJhbGdvcml0aG0iOiJjb2luYmFzZSIsInNpZ25lcl9rZXkiOiJhZGRyZXNz" ++
  "IiwidHJhbnNhY3Rpb24iOiJleUp2ZFhSd2RYUnpJanBiZXlKaFpHUnlaWE56SWpvaVlXUmtjbVZ6Y3lJc0luWmhiSFZs" ++
  "SWpvMWZWMTkifQ==")

set_option exponentiation.threshold 1100 in
set_option maxRecDepth 8000 in
theorem serve_reports_groundTruth_addressReward :
    latestHeight Reference.runtime (Rpc.ofBlocks [[addressRewardRecord]]).status = .ok (1 : Nat) ∧
    (∀ h ∈ List.range' 1 1, GroundTruth.wellFormedBlock Reference.runtime "address"
      ((Rpc.ofBlocks [[addressRewardRecord]]).block h)) ∧
    trueDivOverflows (GroundTruth.groundTruth Reference.runtime
      (Rpc.ofBlocks [[addressRewardRecord]]) "address" 1) 1 = false ∧
    serve Reference.runtime (Rpc.ofBlocks [[addressRewardRecord]]) "/api/v1/address/balance/" =
      (okHeaders ++ [.json ⟨"address", 5, 1⟩], true) :=
  ⟨rfl, by decide, by decide,
    (serve_reports_groundTruth Reference.runtime (Rpc.ofBlocks [[addressRewardRecord]]) 1 rfl
      (by decide) (by decide) _).trans (by decide)⟩

end Shadowy.BalanceHandler
