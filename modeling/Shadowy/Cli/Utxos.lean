import Shadowy.Cli.Send

/-! The `utxos` command (shadowy_cli.py, lines 1199-1259). It lists what `get_address_utxos`
returned, which is the two mock UTXOs whatever the bridge answers: the command shows 15 SHADOW
the address may not have, and its line that no unspent output was found is never printed.
The total it prints is the sum of the values it prints, since both are read from one list
with one default. -/

namespace Shadowy.ShadowyCli

open ShadowyWASM

/-- `v / 100000000` on a value read from a UTXO: ints and bools divide, and an int only when
the quotient fits a float. -/
def divBySatoshis : JVal → Except PyExc Unit
  | .int n => trueDiv n 100000000
  | .bool _ => .ok ()
  | v => .error (.typeError ("unsupported operand type(s) for /: '" ++ v.typeName ++
      "' and 'int'"))

/-- The fields one UTXO's lines show. -/
structure UtxoRow where
  txId : JVal
  vout : JVal
  value : JVal
  confirmations : JVal
  deriving DecidableEq, Repr

/-- Lines 1240-1251: what the loop reads from one UTXO before it prints it. -/
def utxoRow (utxo : JVal) : Except PyExc UtxoRow := do
  let txId ← utxo.get "txid" (.str "")
  let vout ← utxo.get "vout" (.int 0)
  let value ← utxo.get "value" (.int 0)
  let confirmations ← utxo.get "confirmations" (.int 0)
  divBySatoshis value
  pure ⟨txId, vout, value, confirmations⟩

/-- How the command ends when no exception escapes it: `sys.exit(1)`, the line that no
unspent output was found, or the UTXO lines and the total. -/
inductive Listing where
  | exitOne
  | noUtxos
  | listed (rows : List UtxoRow) (total : JVal)
  deriving DecidableEq, Repr

/-- Lines 1230-1259: what the command makes of the lookup's result. -/
def listUtxos (utxoResult : JVal) : Except PyExc Listing := do
  if ← utxoResult.contains "error" then
    let _ ← utxoResult.sub "error"
    pure .exitOne
  else
    let utxos ← utxoResult.get "utxos" (.list [])
    let totalValue ← utxoResult.get "total_value" (.int 0)
    if !utxos.truthy then pure .noUtxos
    else
      let _ ← utxos.len
      let rows ← (← utxos.iter).mapM utxoRow
      divBySatoshis totalValue
      pure (.listed rows totalValue)

/-- `utxos` (lines 1202-1259), with `started` what `load_wasm` returned. -/
def utxos (started : Bool) (w : World) (address node : String) : Except PyExc Listing × List Call :=
  if !started then (.ok .exitOne, []) else
  let (result, s, connectCalls) := (Op.createClient node).run w ⟨none, none⟩
  match result >>= connectFails with
  | .error e => (.error e, connectCalls)
  | .ok true => (.ok .exitOne, connectCalls)
  | .ok false =>
    if badAddress address then (.ok .exitOne, connectCalls) else
    let (utxoResult, _, lookupCalls) := (Op.getAddressUtxos address).run w s
    (utxoResult >>= listUtxos, connectCalls ++ lookupCalls)

theorem utxoRow_value {utxo : JVal} {row : UtxoRow} (read : utxoRow utxo = .ok row) :
    utxo.get "value" (.int 0) = .ok row.value := by
  unfold utxoRow at read
  obtain ⟨_, -, read⟩ := bind_eq_ok.mp read
  obtain ⟨_, -, read⟩ := bind_eq_ok.mp read
  obtain ⟨value, hv, read⟩ := bind_eq_ok.mp read
  obtain ⟨_, -, read⟩ := bind_eq_ok.mp read
  obtain ⟨_, -, read⟩ := bind_eq_ok.mp read
  cases read
  exact hv

/-- The sum `get_address_utxos` computed is the sum of the values the rows show. -/
theorem totalValue_rows {utxos : List JVal} {rows : List UtxoRow}
    (read : utxos.mapM utxoRow = .ok rows) :
    totalValue utxos = (rows.map UtxoRow.value).foldlM (intAdd "+") 0 := by
  suffices ∀ a, utxos.foldlM (fun total utxo => do intAdd "+" total (← utxo.get "value" (.int 0)))
      a = (rows.map UtxoRow.value).foldlM (intAdd "+") a from this 0
  induction utxos generalizing rows with
  | nil => intro a; cases read; rfl
  | cons utxo rest ih =>
    intro a
    rw [List.mapM_cons] at read
    obtain ⟨row, hr, read⟩ := bind_eq_ok.mp read
    obtain ⟨rest', hrest, read⟩ := bind_eq_ok.mp read
    cases read
    simp only [List.foldlM_cons, List.map_cons, utxoRow_value hr, ok_bind]
    rcases intAdd "+" a row.value with e | b
    · rfl
    · exact ih hrest b

theorem utxos_cases (started : Bool) (w : World) (address node : String) :
    (utxos started w address node).1 = .ok .exitOne ∨
      (∃ e, (utxos started w address node).1 = .error e) ∨
      (utxos started w address node).1 =
        utxoReport (.str address) (replyJson (w.reply (request "get_utxos" .none))) >>= listUtxos := by
  unfold utxos
  cases started
  · exact .inl rfl
  simp only [Bool.not_true, Bool.false_eq_true, if_false, Op.run]
  rcases (exec (createClient w node)).1 >>= connectFails with e | _ | _
  · exact .inr (.inl ⟨e, rfl⟩)
  · by_cases bad : badAddress address
    · simp only [bad, if_true, true_or]
    · simp only [bad, Bool.false_eq_true, if_false, reading,
        @getAddressUtxos_str w ⟨some node, none⟩ node rfl address, or_true]
  · exact .inl rfl

theorem utxos_of_connected {w : World} {address node : String}
    (connected : (exec (createClient w node)).1 >>= connectFails = .ok false)
    (valid : badAddress address = false) :
    (utxos true w address node).1 =
      utxoReport (.str address) (replyJson (w.reply (request "get_utxos" .none))) >>= listUtxos := by
  simp only [utxos, Bool.not_true, Bool.false_eq_true, if_false, Op.run, connected, valid,
    reading, @getAddressUtxos_str w ⟨some node, none⟩ node rfl address]

theorem listUtxos_report {address : JVal} {utxos : List JVal} {count total : Int}
    (held : utxos ≠ []) :
    listUtxos (.dict [("address", address), ("utxos", .list utxos), ("count", .int count),
      ("total_value", .int total), ("source", .str "WASM-PQC")]) =
      (do
        let rows ← utxos.mapM utxoRow
        divBySatoshis (.int total)
        pure (.listed rows (.int total))) := by
  simp [listUtxos, JVal.contains, JVal.truthy, JVal.len, held, List.lookup, bind, Except.bind,
    pure, Except.pure]

/-- Every listing the command prints is of the UTXOs the lookup settled on (the mock ones,
`settleUtxos_eq`), and there is at least one of them: the command never says that no unspent
output was found. The total it prints is Python's sum of the values it prints. -/
theorem utxos_lists_lookup {started : Bool} {w : World} {address node : String}
    {listing : Listing} (ended : (utxos started w address node).1 = .ok listing) :
    listing = .exitOne ∨
      ∃ settled rows total,
        (settled = replyUtxos (replyJson (w.reply (request "get_utxos" .none))) ∨
          createMockUtxos (.str address) = .ok settled) ∧ settled ≠ [] ∧
        settled.mapM utxoRow = .ok rows ∧ listing = .listed rows (.int total) ∧
        (rows.map UtxoRow.value).foldlM (intAdd "+") 0 = .ok total := by
  rcases utxos_cases started w address node with h | ⟨e, h⟩ | h
  · exact .inl (Except.ok.inj (ended.symm.trans h))
  · rw [h] at ended
    cases ended
  obtain ⟨report, reported, listed⟩ := bind_eq_ok.mp (h.symm.trans ended)
  obtain ⟨settled, total, hs, summed, rfl⟩ := utxoReport_shape reported
  have held := settleUtxos_ne_nil hs
  rw [listUtxos_report held] at listed
  obtain ⟨rows, read, listed⟩ := bind_eq_ok.mp listed
  obtain ⟨_, -, listed⟩ := bind_eq_ok.mp listed
  cases listed
  exact .inr ⟨settled, rows, total, .inr ((settleUtxos_eq _ _).symm.trans hs), held, read, rfl,
    (totalValue_rows read).symm.trans summed⟩

/-- What the two UTXOs of `_create_mock_utxos` show: 10 and 5 SHADOW. -/
def mockRows : List UtxoRow :=
  [⟨.str "a1b2c3d4e5f6789012345678901234567890abcdef1234567890abcdef123456", .int 0,
      .int 1000000000, .int 10⟩,
    ⟨.str "b2c3d4e5f6789012345678901234567890abcdef1234567890abcdef1234567a", .int 1,
      .int 500000000, .int 20⟩]

set_option exponentiation.threshold 1100 in
theorem utxos_lists_lookup_cliBridge :
    (utxos true cliBridge recipient "http://127.0.0.1:8080").1 =
        .ok (.listed mockRows (.int 1500000000)) ∧
      (Listing.listed mockRows (.int 1500000000) = .exitOne ∨
        ∃ settled rows total,
          (settled = replyUtxos (replyJson (cliBridge.reply (request "get_utxos" .none))) ∨
            createMockUtxos (.str recipient) = .ok settled) ∧ settled ≠ [] ∧
          settled.mapM utxoRow = .ok rows ∧
          Listing.listed mockRows (.int 1500000000) = .listed rows (.int total) ∧
          (rows.map UtxoRow.value).foldlM (intAdd "+") 0 = .ok total) :=
  ⟨by decide, @utxos_lists_lookup true cliBridge recipient "http://127.0.0.1:8080" _ (by decide)⟩

set_option exponentiation.threshold 1100 in
/-- Whatever the bridge answers to the lookup, the command lists the two mock UTXOs as the
address's, 15 SHADOW in all, for every address of the right form. -/
theorem utxos_shows_mocks {w : World} {address node : String}
    (connected : (exec (createClient w node)).1 >>= connectFails = .ok false)
    (valid : badAddress address = false) :
    (utxos true w address node).1 = .ok (.listed mockRows (.int 1500000000)) := by
  rw [utxos_of_connected connected valid, utxoReport, settleUtxos_eq]
  rfl

theorem utxos_shows_mocks_cliBridge :
    (exec (createClient cliBridge "http://127.0.0.1:8080")).1 >>= connectFails = .ok false ∧
      badAddress recipient = false ∧
      (utxos true cliBridge recipient "http://127.0.0.1:8080").1 =
        .ok (.listed mockRows (.int 1500000000)) :=
  ⟨by decide, by decide, utxos_shows_mocks (by decide) (by decide)⟩

end Shadowy.ShadowyCli
