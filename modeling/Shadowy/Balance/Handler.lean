import Shadowy.Balance.Loop

/-! `BalanceHandler.calculate_balance` (balance_api.py, lines 61-108): replay blocks
`1..latest_height` and credit every coinbase output that pays the address. The RPC is the
JSON of `/status` and of `/block?height=h`; a failed request or a body that is not JSON is an
exception. Each height runs in its own `try`, whose handler drops the exception but keeps
whatever the block had already added. -/

namespace Shadowy

/-- `requests.get(...).json()` of `/status` and of `/block?height=h` on the consensus node. -/
structure Rpc where
  status : Except PyExc JVal
  block : Nat → Except PyExc JVal

/-- A node serving blocks holding these records at heights `1, 2, ...`, in the JSON shapes
of spec §6. -/
def Rpc.ofBlocks (blocks : List (List JVal)) : Rpc where
  status := .ok (.dict [("result", .dict [("sync_info",
    .dict [("latest_block_height", .str (toString blocks.length))])])])
  block h :=
    match blocks[h - 1]? with
    | some txs => .ok (.dict [("result", .dict [("block", .dict [("data",
        .dict [("txs", .list txs)])])])])
    | none => .error (.requestException "404 Client Error: Not Found")

namespace BalanceHandler

/-- Lines 94-96. -/
def creditOutput (address : String) (output : JVal) (t : Tally) : Except PyExc Tally := do
  if (← output.get "address" .none).isStr address then
    let balance ← addInt t.balance (← output.get "value" (.int 0))
    pure ⟨balance, t.miningRewards + 1⟩
  else pure t

/-- Lines 81-93: what the output loop runs over, `[]` when the `if` of line 85 fails. -/
def coinbaseOutputs (rt : Runtime) (address : String) (txB64 : JVal) :
    Except PyExc (List JVal) := do
  let signedTx ← rt.loadsB64 txB64
  if (← signedTx.get "algorithm" .none).isStr "coinbase" then
    if (← signedTx.get "signer_key" .none).isStr address then
      let innerTx ← rt.loadsB64 (← signedTx.sub "transaction")
      (← innerTx.get "outputs" (.list [])).iter
    else pure []
  else pure []

/-- Lines 80-96: one transaction record. -/
def scanTx (rt : Runtime) (address : String) (txB64 : JVal) : Step Tally := fun t =>
  match coinbaseOutputs rt address txB64 with
  | .ok outputs => forLoop (fun output => atomic (creditOutput address output)) outputs t
  | .error e => (t, some e)

/-- Lines 75-77: `block_data['result']['block']['data']['txs']`. -/
def txsField (response : Except PyExc JVal) : Except PyExc JVal := do
  let blockData ← response
  (← (← (← blockData.sub "result").sub "block").sub "data").sub "txs"

/-- The records the loop of line 79 runs over. -/
def blockTxs (response : Except PyExc JVal) : Except PyExc (List JVal) :=
  txsField response >>= JVal.iter

/-- Lines 75-96: the body of the `try` for one height. -/
def scanBlock (rt : Runtime) (address : String) (response : Except PyExc JVal) : Step Tally :=
  fun t =>
    match blockTxs response with
    | .ok txs => forLoop (scanTx rt address) txs t
    | .error e => (t, some e)

/-- Lines 73-100. -/
def scanHeights (rt : Runtime) (rpc : Rpc) (address : String) : List Nat → Tally → Tally :=
  replay (scanBlock rt address) rpc.block

/-- Lines 65-67. -/
def latestHeight (rt : Runtime) (status : Except PyExc JVal) : Except PyExc Int := do
  let data ← status
  pyInt rt.intOfStr (← (← (← data.sub "result").sub "sync_info").sub "latest_block_height")

/-- Lines 61-108: `{"balance", "mining_rewards"}`, or the re-raised exception. -/
def calculateBalance (rt : Runtime) (rpc : Rpc) (address : String) : Except PyExc Tally :=
  match latestHeight rt rpc.status with
  | .ok n => .ok (scanHeights rt rpc address (List.range' 1 n.toNat) 0)
  | .error e => .error (.exception ("Failed to calculate balance: " ++ e.str))

theorem addInt_eq (a : Int) (v : JVal) : addInt a v = (addInt 0 v).map (a + ·) := by
  cases v <;> simp [addInt, intAdd, Except.map]

theorem creditOutput_eq (address : String) (output : JVal) (t : Tally) :
    creditOutput address output t = (creditOutput address output 0).map (t + ·) := by
  rcases ha : output.get "address" .none with e | a
  · simp [creditOutput, ha, bind, Except.bind, Except.map]
  rcases hv : output.get "value" (.int 0) with e | v
  · by_cases hs : a.isStr address <;>
      simp [creditOutput, ha, hv, hs, bind, Except.bind, Except.map, pure, Except.pure]
  by_cases hs : a.isStr address
  · simp only [creditOutput, ha, hv, hs, bind, Except.bind, if_true, addInt_eq t.balance v]
    cases addInt 0 v <;> simp [Except.map, pure, Except.pure]
    ext <;> simp [add_comm]
  · simp [creditOutput, ha, hv, hs, bind, Except.bind, Except.map, pure, Except.pure]

theorem scanTx_shifts (rt : Runtime) (address : String) (txB64 : JVal) :
    (scanTx rt address txB64).Shifts := by
  intro t
  simp only [scanTx, Step.delta]
  cases coinbaseOutputs rt address txB64 with
  | ok outputs =>
    exact forLoop_shifts (fun o => atomic_shifts (creditOutput_eq address o)) outputs t
  | error e => simp

theorem scanBlock_shifts (rt : Runtime) (address : String) (response : Except PyExc JVal) :
    (scanBlock rt address response).Shifts := by
  intro t
  simp only [scanBlock, Step.delta]
  cases blockTxs response with
  | ok txs => exact forLoop_shifts (scanTx_shifts rt address) txs t
  | error e => simp

/-- What the block served for a height adds to the totals, whatever they were. -/
def contribution (rt : Runtime) (address : String) (response : Except PyExc JVal) : Tally :=
  (scanBlock rt address response).delta

theorem scanBlock_fst (rt : Runtime) (address : String) (response : Except PyExc JVal)
    (t : Tally) : (scanBlock rt address response t).1 = t + contribution rt address response := by
  rw [scanBlock_shifts rt address response t, contribution]

theorem scanHeights_eq (rt : Runtime) (rpc : Rpc) (address : String) (hs : List Nat)
    (t : Tally) : scanHeights rt rpc address hs t =
      t + (hs.map fun h => contribution rt address (rpc.block h)).sum :=
  replay_eq (scanBlock_shifts rt address) rpc.block hs t

end BalanceHandler

end Shadowy
