import Shadowy.Python.Value

/-! `ShadowyWASM` (shadowy_cli.py, lines 21-338) as it talks to the WASM bridge. A method is
a computation that records every request it sends and may raise; a reply is what `requests`
hands back for one request, so a statement over every `World` is one over every answer the
bridge can give. The object's fields are `current_client` and `current_wallet`; the methods
here only read them. Starting the bridge process (`load_wasm`) and reading wallet files
(`list_wallets`) are outside the model. -/

namespace Shadowy.ShadowyWASM

/-- A request to `/api/<endpoint>` on the bridge: a POST of a JSON body, or a GET. -/
structure Call where
  endpoint : String
  data : Option JVal
  deriving DecidableEq, Repr

/-- What `requests` returns for one request: a response with its status code and its body
decoded as JSON (or the decoder's message), or a `RequestException` with its text. -/
inductive Reply where
  | response (statusCode : Nat) (json : Except String JVal)
  | failure (msg : String)

/-- The bridge's answer to each request a method sends, and the UTC time it reads. -/
structure World where
  reply : Call → Reply
  clock : String

/-- A method run: the requests sent so far, in order, survive an exception. -/
abbrev CallM := EStateM PyExc (List Call)

instance : MonadLift (Except PyExc) CallM where
  monadLift
    | .ok a => pure a
    | .error e => throw e

def exec (x : CallM α) : Except PyExc α × List Call :=
  match x.run [] with
  | .ok a log => (.ok a, log)
  | .error e log => (.error e, log)

section Run

variable (log : List Call)

@[simp] theorem run_pure (a : α) : (pure a : CallM α).run log = .ok a log := rfl

@[simp] theorem run_throw (e : PyExc) : (throw e : CallM α).run log = .error e log := rfl

@[simp] theorem run_bind (x : CallM α) (f : α → CallM β) :
    (x >>= f).run log = match x.run log with
      | .ok a log => (f a).run log
      | .error e log => .error e log := by
  show EStateM.bind x f log = _
  simp only [EStateM.bind, EStateM.run]
  cases x log <;> rfl

@[simp] theorem run_map (f : α → β) (x : CallM α) :
    (f <$> x).run log = match x.run log with
      | .ok a log => .ok (f a) log
      | .error e log => .error e log := by
  show EStateM.map f x log = _
  simp only [EStateM.map, EStateM.run]
  cases x log <;> rfl

@[simp] theorem run_lift (x : Except PyExc α) :
    (monadLift x : CallM α).run log = match x with
      | .ok a => .ok a log
      | .error e => .error e log := by
  cases x <;> rfl

@[simp] theorem run_tryCatch (x : CallM α) (handle : PyExc → CallM α) :
    (tryCatch x handle).run log = match x.run log with
      | .ok a log => .ok a log
      | .error e log => (handle e).run log := by
  show EStateM.tryCatch x handle log = _
  simp only [EStateM.tryCatch, EStateM.run]
  cases x log <;> rfl

end Run

def errorObject (msg : String) : JVal := .dict [("error", .str msg)]

/-- The JSON `_call_wasm` returns for a reply: the body of a 200, otherwise an `error`
object. A body that does not decode raises `JSONDecodeError`, a `RequestException` since
requests 2.27, and is reported as a failed request. -/
def replyJson : Reply → JVal
  | .response 200 (.ok body) => body
  | .response 200 (.error msg) | .failure msg =>
    errorObject ("WASM bridge communication failed: " ++ msg)
  | .response code _ => errorObject ("WASM bridge error: HTTP " ++ toString code)

/-- The request `_call_wasm(endpoint, data)` sends: a POST when `data` is truthy. -/
def request (endpoint : String) (data : JVal) : Call :=
  ⟨endpoint, if data.truthy then some data else none⟩

/-- `_call_wasm` (lines 103-117). It never raises. -/
def callWasm (w : World) (endpoint : String) (data : JVal) : CallM JVal := do
  modify (· ++ [request endpoint data])
  pure (replyJson (w.reply (request endpoint data)))

@[simp] theorem run_callWasm (w : World) (endpoint : String) (data : JVal) (log : List Call) :
    (callWasm w endpoint data).run log =
      .ok (replyJson (w.reply (request endpoint data))) (log ++ [request endpoint data]) := rfl

/-- The part of `current_wallet` the methods read. -/
structure Wallet where
  name : JVal
  address : JVal
  deriving DecidableEq, Repr

/-- The fields of a `ShadowyWASM` the methods read and write: the node URL of
`current_client` (its headers are constant), and `current_wallet`, absent until
`load_wallet` sets it. -/
structure Session where
  currentClient : Option String
  currentWallet : Option Wallet
  deriving DecidableEq, Repr

/-- Lines 131-141, run after lines 123-129 have stored the client. -/
def createClient (w : World) (url : String) : CallM JVal := do
  let result ← callWasm w "create_client" (.dict [("nodeUrl", .str url)])
  if ← result.contains "error" then
    return .dict [("success", .bool false), ("error", ← result.sub "error")]
  let testResult ← callWasm w "test_connection" .none
  if !(← testResult.contains "error") then
    return .dict [("success", .bool true),
      ("message", .str "Client created and connection tested via WASM")]
  else
    let error ← testResult.get "error" (.str "Unknown error")
    return .dict [("success", .bool false),
      ("error", .str ("WASM connection test failed: " ++ error.pyStr))]

/-- `test_connection` (lines 143-152); its bare `except` turns any exception into `False`. -/
def testConnection (w : World) (s : Session) : CallM JVal :=
  match s.currentClient with
  | none => pure (.bool false)
  | some _ => tryCatch (do
      let result ← callWasm w "test_connection" .none
      return .bool !(← result.contains "error"))
    fun _ => pure (.bool false)

/-- `get_balance` (lines 154-164). -/
def getBalance (w : World) (s : Session) (address : String) : CallM JVal :=
  match s.currentClient with
  | none => pure (errorObject "No client configured")
  | some _ => tryCatch (callWasm w "get_balance" (.dict [("address", .str address)]))
    fun e => pure (errorObject e.str)

/-- `get_wallet_balance` (lines 166-200). -/
def getWalletBalance (w : World) (s : Session) (address : String) : CallM JVal :=
  match s.currentClient with
  | none => pure (errorObject "No client configured")
  | some _ => tryCatch (do
      let balanceData ← callWasm w "get_balance" (.dict [("address", .str address)])
      if ← balanceData.contains "error" then
        return errorObject ("Balance lookup failed: " ++ (← balanceData.sub "error").pyStr)
      return .dict [("address", .str address),
        ("shadow_balance", ← balanceData.get "balance" (.int 0)),
        ("confirmed_satoshis", ← balanceData.get "confirmed_satoshis" (.int 0)),
        ("unconfirmed_satoshis", ← balanceData.get "unconfirmed_satoshis" (.int 0)),
        ("total_received_satoshis", ← balanceData.get "total_received_satoshis" (.int 0)),
        ("total_sent_satoshis", ← balanceData.get "total_sent_satoshis" (.int 0)),
        ("transaction_count", ← balanceData.get "transaction_count" (.int 0)),
        ("tokens", .list []), ("nfts", .list [])])
    fun e => pure (errorObject e.str)

/-- `get_node_health` (lines 202-228), which has no `try`. -/
def getNodeHealth (w : World) (s : Session) : CallM JVal :=
  match s.currentClient with
  | none => pure (errorObject "No client configured")
  | some _ => do
    let result ← callWasm w "get_health" .none
    if ← result.contains "error" then
      return .dict [("healthy", .bool false), ("status", .str "wasm_error"),
        ("services", .dict []), ("error", ← result.sub "error")]
    return .dict [("healthy", ← result.get "healthy" (.bool false)),
      ("status", ← result.get "status" (.str "unknown")),
      ("services", ← result.get "services" (.dict [])),
      ("timestamp", ← result.get "timestamp" (.str "")),
      ("http_status", ← result.get "http_status" (.int 0)),
      ("source", .str "WASM-PQC")]

/-- `get_node_info` (lines 230-240). -/
def getNodeInfo (w : World) (s : Session) : CallM JVal :=
  match s.currentClient with
  | none => pure (errorObject "No client configured")
  | some _ => tryCatch (callWasm w "get_node_info" .none) fun e => pure (errorObject e.str)

def walletFile (name : String) : JVal := .str ("~/.shadowy/shadowy-wallet-" ++ name ++ ".json")

/-- `create_wallet` (lines 242-259); it needs no client. -/
def createWallet (w : World) (name : String) : CallM JVal := do
  let result ← callWasm w "create_wallet" (.dict [("name", .str name)])
  if ← result.contains "error" then
    return .dict [("error", ← result.sub "error")]
  return .dict [("name", ← result.sub "name"), ("address", ← result.sub "address"),
    ("file", walletFile name), ("version", ← result.get "version" (.int 3))]

/-- `load_wallet` (lines 261-280), with the wallet lines 270-273 store. Nothing after them
raises, so returning the wallet is storing it. -/
def loadWallet (w : World) (name : String) : CallM (JVal × Option Wallet) := do
  let result ← callWasm w "load_wallet" (.dict [("name", .str name)])
  if ← result.contains "error" then
    return (.dict [("error", ← result.sub "error")], none)
  let wallet : Wallet := ⟨← result.sub "name", ← result.sub "address"⟩
  return (.dict [("name", wallet.name), ("address", wallet.address), ("file", walletFile name),
    ("version", ← result.get "version" (.int 3))], some wallet)

theorem createClient_calls (w : World) (url : String) :
    (exec (createClient w url)).2 = [request "create_client" (.dict [("nodeUrl", .str url)])] ∨
    (exec (createClient w url)).2 = [request "create_client" (.dict [("nodeUrl", .str url)]),
      request "test_connection" .none] := by
  simp only [exec, createClient, run_bind, run_callWasm, run_lift]
  generalize replyJson (w.reply (request "create_client" (.dict [("nodeUrl", .str url)]))) = result
  rcases result.contains "error" with _ | _ | _
  · exact .inl rfl
  · simp only [Bool.false_eq_true, if_false, run_bind, run_pure, run_callWasm, run_lift]
    generalize replyJson (w.reply (request "test_connection" .none)) = test
    rcases test.contains "error" with _ | _ | _ <;>
      rcases test.get "error" (.str "Unknown error") with _ | _ <;> exact .inr rfl
  · rcases result.sub "error" with _ | _ <;> exact .inl rfl

theorem loadWallet_calls (w : World) (name : String) :
    (exec (loadWallet w name)).2 = [request "load_wallet" (.dict [("name", .str name)])] := by
  simp only [exec, loadWallet, run_bind, run_callWasm, run_lift]
  generalize replyJson _ = result
  rcases result.contains "error" with _ | _ | _ <;> rcases result.sub "error" with _ | _ <;>
    rcases result.sub "name" with _ | _ <;> rcases result.sub "address" with _ | _ <;>
    rcases result.get "version" (.int 3) with _ | _ <;> rfl

/-- `get_wallet_address` (lines 307-315). -/
def getWalletAddress (s : Session) : JVal :=
  match s.currentWallet with
  | none => errorObject "No wallet loaded"
  | some wallet => .dict [("name", wallet.name), ("address", wallet.address)]

/-- Lines 327-338: what `sign_transaction` returns for the signer's reply; the print of
line 330 takes `len` of the signature. -/
def signedTx (wallet : Wallet) (result : JVal) : Except PyExc JVal := do
  if ← result.contains "error" then
    return .dict [("error", ← result.sub "error")]
  let _ ← (← result.get "signature" (.str "")).len
  return .dict [("txid", ← result.sub "txid"), ("signature", ← result.sub "signature"),
    ("raw_tx", ← result.sub "raw_tx"),
    ("signed_transaction", ← result.get "signed_transaction" .none),
    ("from_address", wallet.address)]

/-- `sign_transaction` (lines 317-338). -/
def signTransaction (w : World) (s : Session) (transactionData : JVal) : CallM JVal :=
  match s.currentWallet with
  | none => pure (errorObject "No wallet loaded")
  | some wallet => do signedTx wallet (← callWasm w "sign_transaction" transactionData)

theorem signedTx_error {wallet : Wallet} {result signed : JVal}
    (h : signedTx wallet result = .ok signed) (reports : signed.contains "error" = .ok true) :
    ∃ v, signed = .dict [("error", v)] := by
  simp only [signedTx, bind_eq_ok] at h
  obtain ⟨b, _, h⟩ := h
  cases b
  · rw [if_neg Bool.false_ne_true] at h
    simp only [bind_eq_ok, pure, Except.pure, Except.ok.injEq] at h
    obtain ⟨_, -, _, -, _, -, _, -, _, -, _, -, _, -, rfl⟩ := h
    simp [JVal.contains, List.lookup] at reports
  · rw [if_pos rfl, bind_eq_ok] at h
    obtain ⟨v, -, h⟩ := h
    exact ⟨v, by simpa [pure, Except.pure] using h.symm⟩

/-- `validate_address` (lines 579-585). -/
def validateAddress (address : String) : JVal :=
  if address.length = 51 ∧ address.startsWith "S" then
    .dict [("valid", .bool true), ("address", .str address)]
  else .dict [("valid", .bool false),
    ("error", .str "Invalid address format - should be 51 characters starting with 'S'")]

/-- `create_transaction` (lines 587-589), deprecated. -/
def createTransaction : JVal :=
  errorObject "This method is deprecated - transaction creation is handled directly in WASM"

/-- `sign_transaction_with_node` (lines 602-604), deprecated. -/
def signTransactionWithNode : JVal :=
  errorObject ("This method is deprecated - transaction signing is handled directly in WASM " ++
    "with real ML-DSA-87 cryptography")

end Shadowy.ShadowyWASM
