import Shadowy.Wallet.Bridge

/-! `get_address_utxos` and `_create_mock_utxos` (shadowy_cli.py, lines 507-577). The lookup
asks the bridge for `get_utxos` and means to settle on the reply's UTXOs, falling back on two
fixed mock UTXOs of the address. It settles on the mock ones whatever the reply
(`settleUtxos_eq`): the test `isinstance(result, list)` of line 524 names the click command
that lines 808-809 bind to `list`, and raises into the handler of lines 546-548. The sum of
the values is computed outside the `try`. -/

namespace Shadowy.ShadowyWASM

/-- `f"OP_DUP OP_HASH160 {address[1:41]} OP_EQUALVERIFY OP_CHECKSIG"`. -/
def scriptPubkey (address : JVal) : Except PyExc String := do
  pure ("OP_DUP OP_HASH160 " ++ (← address.slice 1 41).pyStr ++ " OP_EQUALVERIFY OP_CHECKSIG")

/-- `_create_mock_utxos` (lines 558-577): 10 and 5 SHADOW paid to the address. -/
def createMockUtxos (address : JVal) : Except PyExc (List JVal) := do
  let script ← scriptPubkey address
  pure [.dict [("txid", .str "a1b2c3d4e5f6789012345678901234567890abcdef1234567890abcdef123456"),
      ("vout", .int 0), ("value", .int 1000000000), ("script_pubkey", .str script),
      ("address", address), ("confirmations", .int 10)],
    .dict [("txid", .str "b2c3d4e5f6789012345678901234567890abcdef1234567890abcdef1234567a"),
      ("vout", .int 1), ("value", .int 500000000), ("script_pubkey", .str script),
      ("address", address), ("confirmations", .int 20)]]

/-- `isinstance(v, list)` in `get_address_utxos` (lines 524 and 535). At call time the
module's global `list` is the click command `def list()` of lines 808-809 defines, not the
built-in type, so the test raises. -/
def isinstanceList (_ : JVal) : Except PyExc Bool :=
  .error (.typeError "isinstance() arg 2 must be a type, a tuple of types, or a union")

/-- Lines 518-548 after the request, which cannot raise: the UTXOs the lookup settles on. -/
def settleUtxos (address result : JVal) : Except PyExc (List JVal) :=
  tryCatch (do
    if ← result.contains "error" then
      let _ ← result.sub "error"
      createMockUtxos address
    else
      let utxos ←
        if ← isinstanceList result then pure result
        else match result with
          | .dict _ => result.get "utxos" (.list [])
          | _ => pure (.list [])
      let utxos ← tryCatch
          (do if !(← isinstanceList utxos) then pure [] else utxos.iter)
          fun _ => createMockUtxos address
      if utxos.length = 0 then createMockUtxos address else pure utxos)
    fun _ => createMockUtxos address

/-- `sum(utxo.get("value", 0) for utxo in utxos)` (line 554). -/
def totalValue (utxos : List JVal) : Except PyExc Int :=
  utxos.foldlM (fun total utxo => do intAdd "+" total (← utxo.get "value" (.int 0))) 0

/-- Lines 550-556: the object `get_address_utxos` returns. -/
def utxoReport (address result : JVal) : Except PyExc JVal := do
  let utxos ← settleUtxos address result
  pure (.dict [("address", address), ("utxos", .list utxos), ("count", .int utxos.length),
    ("total_value", .int (← totalValue utxos)), ("source", .str "WASM-PQC")])

/-- `get_address_utxos` (lines 507-556); the print of line 512 slices the address. -/
def getAddressUtxos (w : World) (s : Session) (address : JVal) : CallM JVal :=
  match s.currentClient with
  | none => pure (errorObject "No client configured")
  | some _ => do
    let _ ← address.slice 0 20
    let result ← callWasm w "get_utxos" .none
    utxoReport address result

/-- The UTXOs a reply to `get_utxos` holds, as lines 524-529 mean to read them: the reply
itself when it is a list, the list under `utxos` when it is an object. -/
def replyUtxos : JVal → List JVal
  | .list items => items
  | .dict items =>
    match items.lookup "utxos" with
    | some (.list items) => items
    | _ => []
  | _ => []

theorem utxoReport_ok {address result report : JVal}
    (reported : utxoReport address result = .ok report) :
    ∃ utxos, settleUtxos address result = .ok utxos ∧
      report.get "utxos" (.list []) = .ok (.list utxos) := by
  obtain ⟨utxos, settled, reported⟩ := bind_eq_ok.mp reported
  obtain ⟨_, -, reported⟩ := bind_eq_ok.mp reported
  obtain rfl : _ = report := by simpa [pure, Except.pure] using reported
  exact ⟨utxos, settled, by simp [List.lookup]⟩

theorem createMockUtxos_ne_nil {address : JVal} {utxos : List JVal}
    (mock : createMockUtxos address = .ok utxos) : utxos ≠ [] := by
  obtain ⟨_, -, made⟩ := bind_eq_ok.mp mock
  cases made
  exact List.cons_ne_nil _ _

theorem tryCatch_of_fallback {x m : Except PyExc α} (h : x = m ∨ ∃ e, x = .error e) :
    tryCatch x (fun _ => m) = m := by
  rcases h with rfl | ⟨e, rfl⟩
  · cases x <;> rfl
  · rfl

/-- Whatever the bridge answers, the lookup settles on the mock UTXOs: an error object takes
the branch of lines 518-521, and any other answer raises at line 524 into the handler of
lines 546-548. -/
theorem settleUtxos_eq (address result : JVal) :
    settleUtxos address result = createMockUtxos address := by
  refine tryCatch_of_fallback ?_
  rcases result.contains "error" with e | _ | _
  · exact .inr ⟨e, rfl⟩
  · exact .inr ⟨_, rfl⟩
  · rcases result.sub "error" with e | _
    · exact .inr ⟨e, rfl⟩
    · exact .inl rfl

theorem settleUtxos_ne_nil {address result : JVal} {utxos : List JVal}
    (settled : settleUtxos address result = .ok utxos) : utxos ≠ [] :=
  createMockUtxos_ne_nil ((settleUtxos_eq address result).symm.trans settled)

theorem utxoReport_shape {address result report : JVal}
    (reported : utxoReport address result = .ok report) :
    ∃ utxos total, settleUtxos address result = .ok utxos ∧ totalValue utxos = .ok total ∧
      report = .dict [("address", address), ("utxos", .list utxos), ("count", .int utxos.length),
        ("total_value", .int total), ("source", .str "WASM-PQC")] := by
  obtain ⟨utxos, settled, reported⟩ := bind_eq_ok.mp reported
  obtain ⟨total, summed, reported⟩ := bind_eq_ok.mp reported
  exact ⟨utxos, total, settled, summed, (Except.ok.inj reported).symm⟩

theorem getAddressUtxos_str (w : World) {s : Session} {url : String}
    (client : s.currentClient = some url) (address : String) :
    exec (getAddressUtxos w s (.str address)) =
      (utxoReport (.str address) (replyJson (w.reply (request "get_utxos" .none))),
        [request "get_utxos" .none]) := by
  simp only [exec, getAddressUtxos, client, run_bind, run_lift, JVal.slice, run_callWasm,
    List.nil_append]
  cases utxoReport (.str address) (replyJson (w.reply (request "get_utxos" .none))) <;> rfl

end Shadowy.ShadowyWASM
