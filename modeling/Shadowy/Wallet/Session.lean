import Shadowy.Wallet.ResetSync
import Shadowy.Wallet.Send

/-! A `ShadowyWASM` object over a sequence of method calls (shadowy_cli.py, lines 21-725).
Only two methods write its fields. `create_client` stores the client before it asks the
bridge anything, so one that then fails has still replaced it; `load_wallet` stores the
wallet only once the bridge has returned a name and an address, and then reports success.
So whatever came before, `send_transaction` signs for the wallet of the last `load_wallet`
that stored one. `load_wasm` (the bridge process), `list_wallets` (the wallet files) and the
private `_create_transaction_legacy` are left out. -/

namespace Shadowy.ShadowyWASM

/-- The public methods of `ShadowyWASM` that talk to the bridge or the node or read its fields;
`reset_sync` is answered by its own node. -/
inductive Op where
  | createClient (url : String)
  | testConnection
  | getBalance (address : String)
  | getWalletBalance (address : String)
  | getNodeHealth
  | getNodeInfo
  | createWallet (name : String)
  | loadWallet (name : String)
  | getWalletAddress
  | signTransaction (transactionData : JVal)
  | sendTransaction (toAddress : String) (amount : Amount) (tokenId : Option String)
  | getAddressUtxos (address : String)
  | validateAddress (address : String)
  | createTransaction
  | signTransactionWithNode
  | resetSync (node : Node) (nodeUrl : Option String)

/-- A method that leaves the fields alone. -/
def reading (s : Session) (x : CallM JVal) : Except PyExc JVal × Session × List Call :=
  ((exec x).1, s, (exec x).2)

/-- One method call: its result or exception, the fields afterwards, and the requests it
sent. -/
def Op.run (w : World) (s : Session) : Op → Except PyExc JVal × Session × List Call
  | .createClient url =>
    ((exec (ShadowyWASM.createClient w url)).1, { s with currentClient := some url },
      (exec (ShadowyWASM.createClient w url)).2)
  | .loadWallet name =>
    match exec (ShadowyWASM.loadWallet w name) with
    | (.ok (result, some wallet), calls) =>
      (.ok result, { s with currentWallet := some wallet }, calls)
    | (.ok (result, none), calls) => (.ok result, s, calls)
    | (.error e, calls) => (.error e, s, calls)
  | .testConnection => reading s (ShadowyWASM.testConnection w s)
  | .getBalance address => reading s (ShadowyWASM.getBalance w s address)
  | .getWalletBalance address => reading s (ShadowyWASM.getWalletBalance w s address)
  | .getNodeHealth => reading s (ShadowyWASM.getNodeHealth w s)
  | .getNodeInfo => reading s (ShadowyWASM.getNodeInfo w s)
  | .createWallet name => reading s (ShadowyWASM.createWallet w name)
  | .getWalletAddress => (.ok (ShadowyWASM.getWalletAddress s), s, [])
  | .signTransaction transactionData => reading s (ShadowyWASM.signTransaction w s transactionData)
  | .sendTransaction toAddress amount tokenId =>
    reading s (ShadowyWASM.sendTransaction w s toAddress amount tokenId)
  | .getAddressUtxos address => reading s (ShadowyWASM.getAddressUtxos w s (.str address))
  | .validateAddress address => (.ok (ShadowyWASM.validateAddress address), s, [])
  | .createTransaction => (.ok ShadowyWASM.createTransaction, s, [])
  | .signTransactionWithNode => (.ok ShadowyWASM.signTransactionWithNode, s, [])
  | .resetSync node nodeUrl => (.ok (ShadowyWASM.resetSync node s nodeUrl).1, s, [])

/-- Method calls one after another on one object, each answered by its own bridge. A call
that raises leaves the fields as the exception found them, and the next call goes on. -/
def runOps : List (Op × World) → Session → Session
  | [], s => s
  | (op, w) :: rest, s => runOps rest (op.run w s).2.1

/-- A result that reports failure: an exception, or an object with an `error` key or with
`success` false. -/
def reportsFailure : Except PyExc JVal → Bool
  | .error _ => true
  | .ok (.dict items) =>
    (items.lookup "error").isSome || items.lookup "success" == some (.bool false)
  | .ok _ => false

/-- The URL a call stores in `current_client`. -/
def Op.clientUrl : Op → Option String
  | .createClient url => some url
  | _ => none

/-- The wallet a call stores in `current_wallet`. -/
def Op.loadedWallet (w : World) : Op → Option Wallet
  | .loadWallet name => (exec (ShadowyWASM.loadWallet w name)).1.toOption.bind (·.2)
  | _ => none

theorem Op.run_fields (w : World) (s : Session) (op : Op) :
    (op.run w s).2.1.currentClient = op.clientUrl.or s.currentClient ∧
    (op.run w s).2.1.currentWallet = (op.loadedWallet w).or s.currentWallet := by
  cases op with
  | loadWallet name =>
    simp only [Op.run, Op.clientUrl, Op.loadedWallet, Option.none_or]
    rcases exec (ShadowyWASM.loadWallet w name) with ⟨_ | ⟨result, _ | wallet⟩, calls⟩ <;>
      simp [Except.toOption]
  | _ => simp [Op.run, reading, Op.clientUrl, Op.loadedWallet]

theorem loadWallet_reports_success {w : World} {name : String} {result : JVal} {wallet : Wallet}
    {calls : List Call}
    (stored : exec (ShadowyWASM.loadWallet w name) = (.ok (result, some wallet), calls)) :
    reportsFailure (.ok result) = false := by
  simp only [exec, ShadowyWASM.loadWallet, run_bind, run_callWasm, run_lift] at stored
  generalize replyJson _ = reply at stored
  rcases hc : reply.contains "error" with e | _ | _
  · simp [hc] at stored
  · rcases hn : reply.sub "name" with e | n <;> rcases ha : reply.sub "address" with e | a <;>
      rcases hv : reply.get "version" (.int 3) with e | v <;>
      simp [hc, hn, ha, hv] at stored
    obtain ⟨⟨rfl, -⟩, -⟩ := stored
    simp [reportsFailure, List.lookup]
  · rcases he : reply.sub "error" with e | v <;> simp [hc, he] at stored

theorem Op.run_failure (w : World) (s : Session) (op : Op)
    (failed : reportsFailure (op.run w s).1 = true) :
    (op.run w s).2.1.currentWallet = s.currentWallet ∧
    (op.run w s).2.1.currentClient = op.clientUrl.or s.currentClient := by
  obtain ⟨client, wallet⟩ := Op.run_fields w s op
  refine ⟨?_, client⟩
  rw [wallet]
  cases op with
  | loadWallet name =>
    rcases stored : exec (ShadowyWASM.loadWallet w name) with ⟨_ | ⟨result, _ | loaded⟩, calls⟩ <;>
      simp [Op.loadedWallet, stored, Except.toOption]
    simp [Op.run, stored, loadWallet_reports_success stored] at failed
  | _ => simp [Op.loadedWallet]

theorem getLast?_filterMap_cons_or (f : α → Option β) (x : α) (xs : List α) (c : Option β) :
    ((x :: xs).filterMap f).getLast?.or c = (xs.filterMap f).getLast?.or ((f x).or c) := by
  rw [List.filterMap_cons]
  cases f x with
  | none => rfl
  | some b =>
    cases h : (xs.filterMap f).getLast? with
    | none => rw [List.getLast?_eq_none_iff.mp h]; rfl
    | some y => simp_all [List.getLast?_cons]

/-- Over any sequence of calls and bridge answers, `current_client` is the URL of the last
`create_client`, whatever it returned, and `current_wallet` the wallet of the last
`load_wallet` that stored one; a call that reports failure keeps the wallet, and keeps the
client unless it is `create_client`. -/
theorem runOps_fields (steps : List (Op × World)) (s : Session) :
    (runOps steps s).currentClient =
      (steps.filterMap fun step => step.1.clientUrl).getLast?.or s.currentClient ∧
    (runOps steps s).currentWallet =
      (steps.filterMap fun step => step.1.loadedWallet step.2).getLast?.or s.currentWallet ∧
    ∀ (op : Op) (w : World) (t : Session), reportsFailure (op.run w t).1 = true →
      (op.run w t).2.1.currentWallet = t.currentWallet ∧
      (op.run w t).2.1.currentClient = op.clientUrl.or t.currentClient := by
  refine ⟨?_, ?_, fun op w t => Op.run_failure w t op⟩ <;>
  induction steps generalizing s with
  | nil => simp [runOps]
  | cons step rest ih =>
    obtain ⟨op, w⟩ := step
    obtain ⟨client, wallet⟩ := Op.run_fields w s op
    rw [runOps, ih, getLast?_filterMap_cons_or]
    first | rw [client] | rw [wallet]

def downBridge : World := ⟨fun _ => .response 500 (.ok .none), ""⟩

theorem failing_createClient_replaces_client :
    (Op.createClient "http://node").run downBridge ⟨none, none⟩ =
      (.ok (.dict [("success", .bool false), ("error", .str "WASM bridge error: HTTP 500")]),
        ⟨some "http://node", none⟩,
        [request "create_client" (.dict [("nodeUrl", .str "http://node")])]) := by
  decide

theorem runOps_eq (steps : List (Op × World)) (s : Session) :
    runOps steps s = ⟨(steps.filterMap fun step => step.1.clientUrl).getLast?.or s.currentClient,
      (steps.filterMap fun step => step.1.loadedWallet step.2).getLast?.or s.currentWallet⟩ := by
  induction steps generalizing s with
  | nil => rfl
  | cons step rest ih =>
    obtain ⟨op, w⟩ := step
    obtain ⟨client, wallet⟩ := Op.run_fields w s op
    rw [runOps, ih, getLast?_filterMap_cons_or, getLast?_filterMap_cons_or, client, wallet]

/-- Over any sequence of method calls on one object, `send_transaction` asks the bridge to
sign only when some earlier call configured a client and some earlier `load_wallet` stored a
wallet, and what it asks to sign is the transaction planned for the wallet of the last
`load_wallet` that stored one. -/
theorem runOps_signs_for_last_wallet (steps : List (Op × World)) (w : World) (toAddress : String)
    (amount : Amount) (tokenId : Option String) {c : Call}
    (sent : c ∈ ((Op.sendTransaction toAddress amount tokenId).run w
      (runOps steps ⟨none, none⟩)).2.2)
    (signs : c.endpoint = "sign_transaction") :
    (steps.filterMap fun step => step.1.clientUrl) ≠ [] ∧
    ∃ wallet plan, (steps.filterMap fun step => step.1.loadedWallet step.2).getLast? = some wallet ∧
      spendPlanOf w wallet toAddress amount tokenId = .ok (.inr plan) ∧
      c = request "sign_transaction" plan.data := by
  simp only [Op.run, reading, runOps_eq, Option.or_none] at sent
  obtain ⟨wallet, plan, hw, planned, rfl⟩ := sendTransaction_signCall sent signs
  refine ⟨fun none => ?_, wallet, plan, hw, planned, rfl⟩
  simp [none, sendTransaction, exec] at sent

/-- A bridge that loads the wallet `main` at `S1` and answers the lookup with one UTXO, which
the lookup passes over for the mock ones. -/
def mainBridge : World :=
  signingBridge oneUtxo (.dict [("name", .str "main"), ("address", .str "S1")])

/-- A client, the wallet `main`, then a `load_wallet` that the bridge fails. -/
def setupSteps : List (Op × World) :=
  [(.createClient "http://127.0.0.1:8080", mainBridge), (.loadWallet "main", mainBridge),
    (.loadWallet "other", downBridge)]

set_option exponentiation.threshold 1100 in
theorem runOps_signs_for_last_wallet_setupSteps :
    ∃ c ∈ ((Op.sendTransaction "S2" oneShadow none).run mainBridge
        (runOps setupSteps ⟨none, none⟩)).2.2,
      c.endpoint = "sign_transaction" ∧
      (setupSteps.filterMap fun step => step.1.clientUrl) ≠ [] ∧
      ∃ wallet plan,
        (setupSteps.filterMap fun step => step.1.loadedWallet step.2).getLast? = some wallet ∧
        spendPlanOf mainBridge wallet "S2" oneShadow none = .ok (.inr plan) ∧
        c = request "sign_transaction" plan.data :=
  ⟨_, List.get_mem _ 1 (by decide), by decide,
    runOps_signs_for_last_wallet _ _ _ _ _ (List.get_mem _ 1 (by decide)) (by decide)⟩

example : (setupSteps.filterMap fun step => step.1.loadedWallet step.2).getLast? =
    some ⟨.str "main", .str "S1"⟩ := by decide

end Shadowy.ShadowyWASM
