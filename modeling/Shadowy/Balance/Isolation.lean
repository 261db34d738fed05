import Shadowy.Balance.CheckBalance

/-! Both scanners see only the address's own coinbases. A record that decodes to a JSON object
other than a coinbase the address signed is passed over before anything else is read from it.
So taking such records out of every block, or putting them in, changes neither scanner's
result. Payments to the address in ordinary transfers or in other miners' coinbases are never
counted, and what the address spends is never subtracted. -/

namespace Shadowy

/-- A record that decodes to an object other than a coinbase `address` signed. -/
def foreignRecord (rt : Runtime) (address : String) (record : JVal) : Bool :=
  match rt.loadsB64 record with
  | .ok (.dict items) => !GroundTruth.isCoinbaseOf address (.dict items)
  | _ => false

namespace BalanceHandler

theorem coinbaseOutputs_foreign {rt : Runtime} {address : String} {record : JVal}
    (foreign : foreignRecord rt address record) : coinbaseOutputs rt address record = .ok [] := by
  unfold foreignRecord at foreign
  rcases h : rt.loadsB64 record with e | tx
  · simp [h] at foreign
  cases tx with
  | dict items =>
    simp only [h, GroundTruth.isCoinbaseOf, GroundTruth.field, Bool.not_and,
      Bool.or_eq_true, Bool.not_eq_true'] at foreign
    by_cases ha : (items.lookup "algorithm").any (·.isStr "coinbase")
    · have hs : (items.lookup "signer_key").any (·.isStr address) = false := by simpa [ha] using foreign
      simp [coinbaseOutputs, h, JVal.get, ha, hs, bind, Except.bind, pure, Except.pure]
    · simp [coinbaseOutputs, h, JVal.get, ha, bind, Except.bind, pure, Except.pure]
  | _ => simp [h] at foreign

theorem scanTx_foreign {rt : Runtime} {address : String} {record : JVal}
    (foreign : foreignRecord rt address record) (t : Tally) :
    scanTx rt address record t = (t, none) := by
  simp [scanTx, coinbaseOutputs_foreign foreign]

theorem scanBlock_drop_foreign {rt : Runtime} {address : String}
    {response response' : Except PyExc JVal}
    (dropped : blockTxs response' = (blockTxs response).map (·.filter fun r => !foreignRecord rt address r))
    (t : Tally) : scanBlock rt address response' t = scanBlock rt address response t := by
  rcases h : blockTxs response with e | txs <;> simp only [scanBlock, dropped, h, Except.map]
  exact forLoop_filter (fun r foreign s => scanTx_foreign foreign s) txs t

end BalanceHandler

namespace CheckBalance

theorem scanTx_foreign {rt : Runtime} {address : String} {record : JVal}
    (foreign : foreignRecord rt address record) (t : Tally) :
    scanTx rt address record t = (t, none) := by
  have same : coinbaseOutputs rt address record = BalanceHandler.coinbaseOutputs rt address record :=
    rfl
  simp [scanTx, same, BalanceHandler.coinbaseOutputs_foreign foreign]

theorem scanBlock_fst_blockTxs (rt : Runtime) (address : String) (response : Except PyExc JVal)
    (t : Tally) : (scanBlock rt address response t).1 =
      match BalanceHandler.blockTxs response with
      | .ok txs => (forLoop (scanTx rt address) txs t).1
      | .error _ => t := by
  simp only [scanBlock, BalanceHandler.blockTxs]
  rcases hf : BalanceHandler.txsField response with e | txs
  · rfl
  cases tr : txs.truthy
  · rcases iter_of_not_truthy tr with ⟨e, he⟩ | he <;> simp [he, tr, bind, Except.bind]
  · rcases hi : txs.iter with e | records <;> simp [hi, tr, bind, Except.bind]

theorem scanBlock_drop_foreign {rt : Runtime} {address : String}
    {response response' : Except PyExc JVal}
    (dropped : BalanceHandler.blockTxs response' =
      (BalanceHandler.blockTxs response).map (·.filter fun r => !foreignRecord rt address r))
    (t : Tally) : (scanBlock rt address response' t).1 = (scanBlock rt address response t).1 := by
  rw [scanBlock_fst_blockTxs, scanBlock_fst_blockTxs, dropped]
  rcases BalanceHandler.blockTxs response with e | txs
  · rfl
  · exact congrArg Prod.fst (forLoop_filter (fun r foreign s => scanTx_foreign foreign s) txs t)

end CheckBalance

/-- Taking out of every block the records that decode to objects other than coinbases the
address signed changes neither scanner's result. Putting such records in changes nothing
either. -/
theorem calculateBalance_ignores_foreign (rt : Runtime) (rpc rpc' : Rpc) (address : String)
    (status : rpc'.status = rpc.status)
    (dropped : ∀ h, BalanceHandler.blockTxs (rpc'.block h) =
      (BalanceHandler.blockTxs (rpc.block h)).map (·.filter fun r => !foreignRecord rt address r)) :
    BalanceHandler.calculateBalance rt rpc' address = BalanceHandler.calculateBalance rt rpc address ∧
    CheckBalance.calculateBalance rt rpc' address = CheckBalance.calculateBalance rt rpc address := by
  have handler : ∀ hs t, BalanceHandler.scanHeights rt rpc' address hs t =
      BalanceHandler.scanHeights rt rpc address hs t := fun hs t =>
    replay_congr (fun h _ s => by rw [BalanceHandler.scanBlock_drop_foreign (dropped h)]) t
  have cli : ∀ hs t, CheckBalance.scanHeights rt rpc' address hs t =
      CheckBalance.scanHeights rt rpc address hs t := fun hs t =>
    replay_congr (fun h _ s => CheckBalance.scanBlock_drop_foreign (dropped h) s) t
  exact ⟨by simp only [BalanceHandler.calculateBalance, status, handler],
    by simp only [CheckBalance.calculateBalance, CheckBalance.getLatestHeight, status, cli]⟩

/-- `{"algorithm":"ml-dsa-87","signer_key":"S"}`: a transaction of `S` that is not a
coinbase. -/
def spendRecord : JVal := .str "eyJhbGdvcml0aG0iOiJtbC1kc2EtODciLCJzaWduZXJfa2V5IjoiUyJ9"

theorem calculateBalance_ignores_spend :
    BalanceHandler.calculateBalance Reference.runtime
        (Rpc.ofBlocks [[BalanceHandler.rewardRecord]]) "S" =
      BalanceHandler.calculateBalance Reference.runtime
        (Rpc.ofBlocks [[spendRecord, BalanceHandler.rewardRecord]]) "S" ∧
    CheckBalance.calculateBalance Reference.runtime
        (Rpc.ofBlocks [[BalanceHandler.rewardRecord]]) "S" =
      CheckBalance.calculateBalance Reference.runtime
        (Rpc.ofBlocks [[spendRecord, BalanceHandler.rewardRecord]]) "S" :=
  calculateBalance_ignores_foreign Reference.runtime _ _ "S" rfl fun
    | 0 | 1 => by decide
    | _ + 2 => rfl

end Shadowy
