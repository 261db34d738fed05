import Shadowy.Wallet.Selection

/-! `send_transaction` (shadowy_cli.py, lines 340-505): look up the sender's UTXOs, select
some, build the transaction, have the bridge sign it and broadcast it. After the two checks
everything runs in one `try`, whose handler answers `{"error": "Transaction failed: ..."}`.
The inner handler for `RequestException` around the broadcast is dead code, since
`_call_wasm` catches those itself. The float fields of the result (`amount`, `fee`,
`change`) are left out; the divisions that compute them stay, as they can raise. -/

namespace Shadowy.ShadowyWASM

/-- The float `amount` through the two conversions the method applies to it,
`int(amount * 100000000)` and `int(amount)`. Floats are outside the model, so their
results are given. -/
structure Amount where
  satoshis : Except PyExc Int
  units : Except PyExc Int

/-- `token_id` when it is truthy. -/
def givenToken : Option String → Option String
  | some t => if t = "" then none else some t
  | none => none

/-- Lines 396-403. -/
def txInput (utxo : JVal) : Except PyExc JVal := do
  pure (.dict [("txid", ← utxo.get "txid" (.str "")), ("vout", ← utxo.get "vout" (.int 0)),
    ("script_sig", .str ""), ("sequence", .int 0xffffffff)])

/-- The input of lines 397-402 that spends `utxo`, field by field: its txid and vout, an
empty script and the final sequence number. -/
def Spends (utxo input : JVal) : Prop :=
  ∃ txid vout, utxo.get "txid" (.str "") = .ok txid ∧ utxo.get "vout" (.int 0) = .ok vout ∧
    input = .dict [("txid", txid), ("vout", vout), ("script_sig", .str ""),
      ("sequence", .int 0xffffffff)]

theorem txInput_spends {utxo input : JVal} (built : txInput utxo = .ok input) :
    Spends utxo input := by
  simp only [txInput, bind_eq_ok] at built
  obtain ⟨txid, ht, vout, hv, built⟩ := built
  exact ⟨txid, vout, ht, hv, (Except.ok.inj built).symm⟩

def txOutput (value : Int) (script : String) (address : JVal) : JVal :=
  .dict [("value", .int value), ("script_pubkey", .str script), ("address", address)]

/-- Lines 406-422: the recipient's output, then the change to the sender when there is
some. -/
def spendOutputs (fromAddress : JVal) (toAddress : String) (amountSatoshis change : Int) :
    Except PyExc (List JVal) := do
  let recipient := txOutput amountSatoshis (← scriptPubkey (.str toAddress)) (.str toAddress)
  if 0 < change then
    pure [recipient, txOutput change (← scriptPubkey fromAddress) fromAddress]
  else pure [recipient]

/-- Lines 425-433. -/
def tokenOperations (fromAddress : JVal) (toAddress : String) (amount : Amount) :
    Option String → Except PyExc (List JVal)
  | none => pure []
  | some token => do
    pure [.dict [("type", .int 1), ("token_id", .str token), ("from", fromAddress),
      ("to", .str toAddress), ("amount", .int (← amount.units))]]

/-- Lines 443-453. -/
def transactionData (clock : String) (inputs outputs tokenOps : List JVal) : JVal :=
  .dict ([("version", .int 1), ("inputs", .list inputs), ("outputs", .list outputs),
    ("locktime", .int 0), ("timestamp", .str clock)] ++
    if tokenOps.isEmpty then [] else [("token_ops", .list tokenOps)])

/-- What lines 365-453 settle on: the amount, the UTXOs selected, the change they leave over
the amount and the fee, and the data handed to the signer. -/
structure SpendPlan where
  amountSatoshis : Int
  selection : Selection (amountSatoshis + estimatedFee)
  change : Int
  data : JVal
  change_eq : change = selection.totalSelected - amountSatoshis - estimatedFee

/-- What `utxos.sort` runs on. -/
def sortable : JVal → Except PyExc (List JVal)
  | .list items => .ok items
  | v => .error (.attributeError ("'" ++ v.typeName ++ "' object has no attribute 'sort'"))

/-- Line 369: `int(amount * 100000000)` for SHADOW, `int(amount)` for a token. -/
def satoshisOf (amount : Amount) (token : Option String) : Except PyExc Int :=
  if token.isNone then amount.satoshis else amount.units

/-- Lines 393-453 once the UTXOs are selected: the print of line 393 divides the total, then
the inputs, the outputs and the token operation make the data for the signer. -/
def buildPlan (clock : String) (fromAddress : JVal) (toAddress : String) (amount : Amount)
    (token : Option String) (amountSatoshis : Int)
    (selection : Selection (amountSatoshis + estimatedFee)) : Except PyExc SpendPlan := do
  trueDiv selection.totalSelected 100000000
  let inputs ← selection.selected.mapM fun u => txInput u.1
  let change := selection.totalSelected - amountSatoshis - estimatedFee
  let outputs ← spendOutputs fromAddress toAddress amountSatoshis change
  let tokenOps ← tokenOperations fromAddress toAddress amount token
  pure ⟨amountSatoshis, selection, change, transactionData clock inputs outputs tokenOps, rfl⟩

/-- Lines 357-453 once `get_address_utxos` has answered: the plan, or the object returned
early. -/
def planSpend (clock : String) (fromAddress : JVal) (toAddress : String) (amount : Amount)
    (token : Option String) (utxosResult : JVal) : Except PyExc (JVal ⊕ SpendPlan) := do
  if ← utxosResult.contains "error" then
    return .inl (errorObject ("UTXO lookup failed: " ++ (← utxosResult.sub "error").pyStr))
  let utxos ← utxosResult.get "utxos" (.list [])
  if !utxos.truthy then
    return .inl (errorObject "No spendable UTXOs found")
  let _ ← utxos.len
  let amountSatoshis ← satoshisOf amount token
  let keyed ← (← sortable utxos).mapM keyedUtxo
  match selectUtxos (amountSatoshis + estimatedFee) keyed with
  | .error msg => return .inl (errorObject msg)
  | .ok selection =>
    return .inr (← buildPlan clock fromAddress toAddress amount token amountSatoshis selection)

/-- Lines 465-490: the object returned for the broadcaster's reply. -/
def broadcastOutcome (fromAddress : JVal) (toAddress : String) (token : Option String)
    (change : Int) (signed broadcastResult : JVal) : Except PyExc JVal := do
  let asset := match token with
    | none => "SHADOW"
    | some t => "token " ++ t
  if !(← broadcastResult.contains "error") then
    let txid ← signed.sub "txid"
    if 0 < change then trueDiv change 100000000
    return .dict [("success", .bool true), ("txid", txid),
      ("message", .str "Transaction submitted to mempool via WASM"), ("from", fromAddress),
      ("to", .str toAddress), ("asset", .str asset), ("broadcast_response", broadcastResult)]
  else
    let txid ← signed.sub "txid"
    let error ← broadcastResult.sub "error"
    return .dict [("success", .bool false), ("txid", txid),
      ("message", .str "Transaction created but WASM broadcast failed"), ("from", fromAddress),
      ("to", .str toAddress), ("asset", .str asset),
      ("error", .str ("WASM broadcast error: " ++ error.pyStr))]

/-- Lines 455-502, once the transaction is built: the signer, then the broadcaster; the print
of line 459 slices the txid. -/
def submitPlan (w : World) (s : Session) (fromAddress : JVal) (toAddress : String)
    (token : Option String) (plan : SpendPlan) : CallM JVal := do
  let signed ← signTransaction w s plan.data
  if ← signed.contains "error" then return signed
  let _ ← (← signed.sub "txid").slice 0 16
  let broadcastResult ← callWasm w "broadcast_transaction" signed
  broadcastOutcome fromAddress toAddress token plan.change signed broadcastResult

/-- Lines 349-502, the body of the `try`. -/
def sendBody (w : World) (s : Session) (fromAddress : JVal) (toAddress : String)
    (amount : Amount) (token : Option String) : CallM JVal := do
  let utxosResult ← getAddressUtxos w s fromAddress
  match ← planSpend w.clock fromAddress toAddress amount token utxosResult with
  | .inl early => pure early
  | .inr plan => submitPlan w s fromAddress toAddress token plan

/-- `send_transaction` (lines 340-505). -/
def sendTransaction (w : World) (s : Session) (toAddress : String) (amount : Amount)
    (tokenId : Option String) : CallM JVal :=
  match s.currentClient, s.currentWallet with
  | none, _ => pure (errorObject "No client configured")
  | some _, none => pure (errorObject "No wallet loaded")
  | some _, some wallet =>
    tryCatch (sendBody w s wallet.address toAddress amount (givenToken tokenId))
      fun e => pure (errorObject ("Transaction failed: " ++ e.str))

/-- The plan `send_transaction` builds on the bridge's answer to the UTXO lookup. -/
def spendPlanOf (w : World) (wallet : Wallet) (toAddress : String) (amount : Amount)
    (tokenId : Option String) : Except PyExc (JVal ⊕ SpendPlan) :=
  utxoReport wallet.address (replyJson (w.reply (request "get_utxos" .none))) >>=
    planSpend w.clock wallet.address toAddress amount (givenToken tokenId)

theorem buildPlan_ok {clock : String} {fromAddress : JVal} {toAddress : String}
    {amount : Amount} {token : Option String} {amountSatoshis : Int}
    {selection : Selection (amountSatoshis + estimatedFee)} {plan : SpendPlan}
    (built : buildPlan clock fromAddress toAddress amount token amountSatoshis selection = .ok plan) :
    ∃ inputs outputs tokenOps,
      selection.selected.mapM (fun u => txInput u.1) = .ok inputs ∧
      spendOutputs fromAddress toAddress amountSatoshis
        (selection.totalSelected - amountSatoshis - estimatedFee) = .ok outputs ∧
      tokenOperations fromAddress toAddress amount token = .ok tokenOps ∧
      plan = ⟨amountSatoshis, selection, _, transactionData clock inputs outputs tokenOps, rfl⟩ := by
  simp only [buildPlan, bind_eq_ok] at built
  obtain ⟨-, -, inputs, hi, outputs, ho, tokenOps, ht, built⟩ := built
  exact ⟨inputs, outputs, tokenOps, hi, ho, ht, by cases built; rfl⟩

theorem planSpend_inr {clock : String} {fromAddress : JVal} {toAddress : String} {amount : Amount}
    {token : Option String} {utxosResult : JVal} {plan : SpendPlan}
    (planned : planSpend clock fromAddress toAddress amount token utxosResult = .ok (.inr plan)) :
    ∃ utxos keyed inputs outputs tokenOps,
      utxosResult.get "utxos" (.list []) = .ok (.list utxos) ∧
      utxos.mapM keyedUtxo = .ok keyed ∧
      satoshisOf amount token = .ok plan.amountSatoshis ∧
      selectUtxos (plan.amountSatoshis + estimatedFee) keyed = .ok plan.selection ∧
      plan.selection.selected.mapM (fun u => txInput u.1) = .ok inputs ∧
      spendOutputs fromAddress toAddress plan.amountSatoshis plan.change = .ok outputs ∧
      tokenOperations fromAddress toAddress amount token = .ok tokenOps ∧
      plan.data = transactionData clock inputs outputs tokenOps := by
  simp only [planSpend, bind_eq_ok] at planned
  obtain ⟨_, _, planned⟩ := planned
  split at planned
  · cases h : utxosResult.sub "error" <;> simp [h, Functor.map, Except.map] at planned
  simp only [bind_eq_ok] at planned
  obtain ⟨_, _, utxos, hu, planned⟩ := planned
  split at planned
  · simp [pure, Except.pure] at planned
  simp only [bind_eq_ok] at planned
  obtain ⟨_, _, _, _, amountSatoshis, ha, items, hi, keyed, hk, planned⟩ := planned
  split at planned
  · simp [pure, Except.pure] at planned
  rename_i selection hs
  simp only [bind_eq_ok] at planned
  obtain ⟨built, hb, planned⟩ := planned
  obtain rfl : built = plan := by simpa [pure, Except.pure] using planned
  obtain ⟨inputs, outputs, tokenOps, hin, hout, htok, rfl⟩ := buildPlan_ok hb
  obtain rfl : utxos = .list items := by cases utxos <;> simp_all [sortable]
  exact ⟨items, keyed, inputs, outputs, tokenOps, hu, hk, ha, hs, hin, hout, htok, rfl⟩

theorem planSpend_inl {clock : String} {fromAddress : JVal} {toAddress : String} {amount : Amount}
    {token : Option String} {utxosResult early : JVal}
    (planned : planSpend clock fromAddress toAddress amount token utxosResult = .ok (.inl early)) :
    ∃ msg, early = errorObject msg := by
  simp only [planSpend, bind_eq_ok] at planned
  obtain ⟨_, _, planned⟩ := planned
  split at planned
  · rcases h : utxosResult.sub "error" with e | v <;>
      simp [h, Functor.map, Except.map] at planned
    exact ⟨_, planned.symm⟩
  simp only [bind_eq_ok] at planned
  obtain ⟨_, _, utxos, _, planned⟩ := planned
  split at planned
  · exact ⟨_, by simpa [pure, Except.pure] using planned.symm⟩
  simp only [bind_eq_ok] at planned
  obtain ⟨_, _, _, _, _, _, _, _, _, _, planned⟩ := planned
  split at planned
  · exact ⟨_, by simpa [pure, Except.pure] using planned.symm⟩
  · simp only [bind_eq_ok] at planned
    obtain ⟨_, _, planned⟩ := planned
    simp [pure, Except.pure] at planned

theorem spendOutputs_ok {fromAddress : JVal} {toAddress : String} {amountSatoshis change : Int}
    {outputs : List JVal}
    (built : spendOutputs fromAddress toAddress amountSatoshis change = .ok outputs) :
    ∃ toScript fromScript, outputs = txOutput amountSatoshis toScript (.str toAddress) ::
      if 0 < change then [txOutput change fromScript fromAddress] else [] := by
  simp only [spendOutputs, bind_eq_ok] at built
  obtain ⟨toScript, -, built⟩ := built
  by_cases pos : 0 < change
  · simp only [pos, if_true, bind_eq_ok] at built
    obtain ⟨fromScript, -, built⟩ := built
    exact ⟨toScript, fromScript, by simp_all [pure, Except.pure]⟩
  · simp only [pos, if_false] at built
    exact ⟨toScript, toScript, by rw [if_neg pos]; simp_all [pure, Except.pure]⟩

theorem sendTransaction_requests (w : World) (s : Session) (toAddress : String)
    (amount : Amount) (tokenId : Option String) :
    (exec (sendTransaction w s toAddress amount tokenId)).2 = [] ∨
    (exec (sendTransaction w s toAddress amount tokenId)).2 = [request "get_utxos" .none] ∨
    ∃ wallet plan, s.currentWallet = some wallet ∧
      spendPlanOf w wallet toAddress amount tokenId = .ok (.inr plan) ∧
      ((exec (sendTransaction w s toAddress amount tokenId)).2 =
          [request "get_utxos" .none, request "sign_transaction" plan.data] ∨
        ∃ signed, signedTx wallet (replyJson (w.reply (request "sign_transaction" plan.data))) =
            .ok signed ∧
          (exec (sendTransaction w s toAddress amount tokenId)).2 =
            [request "get_utxos" .none, request "sign_transaction" plan.data,
              request "broadcast_transaction" signed]) := by
  unfold sendTransaction exec
  rcases hc : s.currentClient with _ | url
  · simp
  rcases hw : s.currentWallet with _ | wallet
  · simp
  simp only [run_tryCatch, sendBody, getAddressUtxos, hc, run_bind, run_lift, run_callWasm]
  rcases hs : wallet.address.slice 0 20 with e | _
  · simp
  rcases hr : utxoReport wallet.address (replyJson (w.reply (request "get_utxos" .none))) with e | report
  · simp
  rcases hp : planSpend w.clock wallet.address toAddress amount (givenToken tokenId) report with e | early | plan
  · simp [hp]
  · simp [hp]
  have planned : spendPlanOf w wallet toAddress amount tokenId = .ok (.inr plan) := by
    simp [spendPlanOf, hr, hp, bind, Except.bind]
  refine .inr (.inr ⟨wallet, plan, rfl, planned, ?_⟩)
  simp only [hp, submitPlan, signTransaction, hw, run_bind, run_callWasm, run_lift]
  rcases hsig : signedTx wallet (replyJson (w.reply (request "sign_transaction" plan.data))) with
    e | signed
  · simp
  rcases hce : signed.contains "error" with e | _ | _
  · simp [hce]
  · rcases hid : signed.sub "txid" with e | txid
    · simp [hce, hid]
    rcases hsl : txid.slice 0 16 with e | _
    · simp [hce, hid, hsl]
    refine .inr ⟨signed, rfl, ?_⟩
    rcases hb : broadcastOutcome wallet.address toAddress (givenToken tokenId) plan.change signed
      (replyJson (w.reply (request "broadcast_transaction" signed))) with _ | _ <;>
      simp [hce, hid, hsl, hb]
  · simp [hce]

theorem transactionData_truthy (clock : String) (inputs outputs tokenOps : List JVal) :
    (transactionData clock inputs outputs tokenOps).truthy = true := by
  simp [transactionData, JVal.truthy]

theorem sendTransaction_signCall {w : World} {s : Session} {toAddress : String}
    {amount : Amount} {tokenId : Option String} {c : Call}
    (sent : c ∈ (exec (sendTransaction w s toAddress amount tokenId)).2)
    (signs : c.endpoint = "sign_transaction") :
    ∃ wallet plan, s.currentWallet = some wallet ∧
      spendPlanOf w wallet toAddress amount tokenId = .ok (.inr plan) ∧
      c = request "sign_transaction" plan.data := by
  rcases sendTransaction_requests w s toAddress amount tokenId with
    log | log | ⟨wallet, plan, hw, planned, log | ⟨signed, -, log⟩⟩ <;>
    simp only [log, List.mem_cons, List.mem_singleton, List.not_mem_nil, or_false] at sent <;>
    rcases sent with rfl | rfl | rfl <;>
    first | exact ⟨wallet, plan, hw, planned, rfl⟩ | simp [request] at signs

theorem spendPlanOf_inr {w : World} {wallet : Wallet} {toAddress : String} {amount : Amount}
    {tokenId : Option String} {plan : SpendPlan}
    (planned : spendPlanOf w wallet toAddress amount tokenId = .ok (.inr plan)) :
    ∃ utxos keyed inputs outputs rest,
      settleUtxos wallet.address (replyJson (w.reply (request "get_utxos" .none))) = .ok utxos ∧
      utxos.mapM keyedUtxo = .ok keyed ∧
      satoshisOf amount (givenToken tokenId) = .ok plan.amountSatoshis ∧
      selectUtxos (plan.amountSatoshis + estimatedFee) keyed = .ok plan.selection ∧
      List.Forall₂ (fun u i => Spends u.1 i) plan.selection.selected inputs ∧
      spendOutputs wallet.address toAddress plan.amountSatoshis plan.change = .ok outputs ∧
      (request "sign_transaction" plan.data).data = some (.dict (("version", .int 1) ::
        ("inputs", .list inputs) :: ("outputs", .list outputs) :: rest)) := by
  obtain ⟨report, reported, hp⟩ := bind_eq_ok.mp planned
  obtain ⟨utxos, keyed, inputs, outputs, tokenOps, hu, hk, ha, hs, hin, hout, -, hdata⟩ :=
    planSpend_inr hp
  obtain ⟨settled, looked, hrep⟩ := utxoReport_ok reported
  obtain rfl : settled = utxos := by simpa [hrep] using hu
  exact ⟨settled, keyed, inputs, outputs, _, looked, hk, ha, hs,
    (forall₂_of_mapM_ok hin).imp fun _ _ => txInput_spends, hout,
    by rw [request, hdata, if_pos (transactionData_truthy _ _ _ _)]; rfl⟩

section Run

variable {w : World} {s : Session} {toAddress : String} {amount : Amount}
  {tokenId : Option String} {url : String} {wallet : Wallet}
  (client : s.currentClient = some url) (loaded : s.currentWallet = some wallet)

include client loaded

end Run

/-- A bridge that answers the UTXO lookup with `utxos`, signs anything as the transaction
`t`, and answers the broadcast with `broadcast`. -/
def signingBridge (utxos : Reply) (broadcast : JVal) : World where
  reply c :=
    if c.endpoint = "get_utxos" then utxos
    else if c.endpoint = "sign_transaction" then
      .response 200 (.ok (.dict [("txid", .str "t"), ("signature", .str "sig"),
        ("raw_tx", .str "raw")]))
    else .response 200 (.ok broadcast)
  clock := "2025-01-01T00:00:00Z"

/-- The bridge's answer to the lookup: one UTXO of 3 SHADOW, which the lookup passes over for
the mock ones. -/
def oneUtxo : Reply :=
  .response 200 (.ok (.list [.dict [("txid", .str "u1"), ("vout", .int 0),
    ("value", .int 300000000)]]))

def readySession : Session := ⟨some "http://localhost:8080", some ⟨.str "main", .str "S1"⟩⟩

def oneShadow : Amount := ⟨.ok 100000000, .ok 1⟩

/-- The amount of the spec's example, which the 10 and 5 SHADOW of the mock UTXOs cover. -/
def twelveShadow : Amount := ⟨.ok 1200000000, .ok 12⟩

/-- A transaction handed to the signer spends the selected UTXOs of the plan, in order, and
pays the amount to the recipient and the change back to the sender exactly when there is
some. The selected UTXOs' values, summed as Python sums them, are the outputs plus exactly
the fee of 100000. -/
theorem sendTransaction_conserves_value {w : World} {s : Session} {toAddress : String}
    {amount : Amount} {tokenId : Option String} {c : Call}
    (sent : c ∈ (exec (sendTransaction w s toAddress amount tokenId)).2)
    (signs : c.endpoint = "sign_transaction") :
    ∃ (wallet : Wallet) (plan : SpendPlan) (values inputs : List JVal)
      (rest : List (String × JVal)) (toScript fromScript : String),
      s.currentWallet = some wallet ∧
      spendPlanOf w wallet toAddress amount tokenId = .ok (.inr plan) ∧
      satoshisOf amount (givenToken tokenId) = .ok plan.amountSatoshis ∧
      plan.selection.selected.mapM (fun u => u.1.get "value" (.int 0)) = .ok values ∧
      values.foldlM (intAdd "+") 0 = .ok plan.selection.totalSelected ∧
      List.Forall₂ (fun u i => Spends u.1 i) plan.selection.selected inputs ∧
      c.data = some (.dict (("version", .int 1) :: ("inputs", .list inputs) ::
        ("outputs", .list (.dict [("value", .int plan.amountSatoshis),
            ("script_pubkey", .str toScript), ("address", .str toAddress)] ::
          if 0 < plan.change then [.dict [("value", .int plan.change),
            ("script_pubkey", .str fromScript), ("address", wallet.address)]] else [])) :: rest)) ∧
      plan.change = plan.selection.totalSelected - plan.amountSatoshis - estimatedFee ∧
      0 ≤ plan.change ∧
      plan.selection.totalSelected =
        plan.amountSatoshis + (if 0 < plan.change then plan.change else 0) + estimatedFee := by
  obtain ⟨wallet, plan, loaded, planned, rfl⟩ := sendTransaction_signCall sent signs
  obtain ⟨_, _, inputs, _, _, -, valued, converted, selected, spends, built, data⟩ :=
    spendPlanOf_inr planned
  obtain ⟨toScript, fromScript, rfl⟩ := spendOutputs_ok built
  obtain ⟨values, read, summed⟩ :=
    sum_values_of_keyed (fun k hk => (selectUtxos_mem valued selected hk).2) 0
  have covers := plan.selection.covers
  have change_eq := plan.change_eq
  rw [Int.zero_add, plan.selection.sum_eq] at summed
  exact ⟨wallet, plan, values, inputs, _, toScript, fromScript, loaded, planned, converted, read,
    summed, spends, data, change_eq, by omega, by split <;> omega⟩

set_option exponentiation.threshold 1100 in
theorem sendTransaction_conserves_value_twelve :
    ∃ c ∈ (exec (sendTransaction (signingBridge oneUtxo (.dict [])) readySession "S2" twelveShadow
        none)).2, c.endpoint = "sign_transaction" ∧
      ∃ (wallet : Wallet) (plan : SpendPlan) (values inputs : List JVal)
        (rest : List (String × JVal)) (toScript fromScript : String),
        readySession.currentWallet = some wallet ∧
        spendPlanOf (signingBridge oneUtxo (.dict [])) wallet "S2" twelveShadow none =
          .ok (.inr plan) ∧
        satoshisOf twelveShadow (givenToken none) = .ok plan.amountSatoshis ∧
        plan.selection.selected.mapM (fun u => u.1.get "value" (.int 0)) = .ok values ∧
        values.foldlM (intAdd "+") 0 = .ok plan.selection.totalSelected ∧
        List.Forall₂ (fun u i => Spends u.1 i) plan.selection.selected inputs ∧
        c.data = some (.dict (("version", .int 1) :: ("inputs", .list inputs) ::
          ("outputs", .list (.dict [("value", .int plan.amountSatoshis),
              ("script_pubkey", .str toScript), ("address", .str "S2")] ::
            if 0 < plan.change then [.dict [("value", .int plan.change),
              ("script_pubkey", .str fromScript), ("address", wallet.address)]] else [])) ::
            rest)) ∧
        plan.change = plan.selection.totalSelected - plan.amountSatoshis - estimatedFee ∧
        0 ≤ plan.change ∧
        plan.selection.totalSelected =
          plan.amountSatoshis + (if 0 < plan.change then plan.change else 0) + estimatedFee :=
  ⟨_, List.get_mem _ 1 (by decide), by decide,
    sendTransaction_conserves_value (List.get_mem _ 1 (by decide)) (by decide)⟩

set_option exponentiation.threshold 1100 in
/-- A broadcaster answering JSON `null`: the signer returned the txid `t`, but the test
`"error" not in broadcast_result` raises outside the `RequestException` handler, and the
outer handler answers without the txid. -/
theorem null_broadcast_loses_txid :
    (exec (sendTransaction (signingBridge oneUtxo .none) readySession "S2" oneShadow none)).1 =
      .ok (errorObject "Transaction failed: argument of type 'NoneType' is not iterable") ∧
    (exec (sendTransaction (signingBridge oneUtxo .none) readySession "S2" oneShadow none)).2.map
      Call.endpoint = ["get_utxos", "sign_transaction", "broadcast_transaction"] := by
  decide

end Shadowy.ShadowyWASM
