import Shadowy.Balance.GroundTruth

/-! `check_balance.calculate_balance` (check_balance.py, lines 28-70), the CLI's replay. It
runs the statements of `BalanceHandler.calculate_balance` with three differences: a block
whose `txs` is empty or absent is skipped, each credited reward is printed in SHADOW inside
the `try`, and a summary with the balance and the average reward is printed after the loop.
Printing divides ints into floats, which raises from about 1.8·10^308 on. -/

namespace Shadowy.CheckBalance

/-- Lines 7-11. -/
def getLatestHeight (rt : Runtime) (rpc : Rpc) : Except PyExc Int := do
  let data ← rpc.status
  pyInt rt.intOfStr (← (← (← data.sub "result").sub "sync_info").sub "latest_block_height")

/-- Lines 13-16. -/
def getBlock (rpc : Rpc) (height : Nat) : Except PyExc JVal := rpc.block height

/-- Lines 18-21. -/
def decodeTransaction (rt : Runtime) (txB64 : JVal) : Except PyExc JVal := rt.loadsB64 txB64

/-- Lines 23-26. -/
def decodeInnerTransaction (rt : Runtime) (innerTxB64 : JVal) : Except PyExc JVal :=
  rt.loadsB64 innerTxB64

/-- The `reward_amount/100000000` of line 59. -/
def printReward : JVal → Except PyExc Unit
  | .int n => trueDiv n 100000000
  | _ => .ok ()

/-- Lines 55-59: the totals move before the print, which may then raise. -/
def creditOutput (address : String) (output : JVal) : Step Tally := fun t =>
  match output.get "address" .none with
  | .error e => (t, some e)
  | .ok outputAddress =>
    if outputAddress.isStr address then
      match output.get "value" (.int 0) with
      | .error e => (t, some e)
      | .ok rewardAmount =>
        match addInt t.balance rewardAmount with
        | .error e => (t, some e)
        | .ok balance =>
          match printReward rewardAmount with
          | .ok () => (⟨balance, t.miningRewards + 1⟩, none)
          | .error e => (⟨balance, t.miningRewards + 1⟩, some e)
    else (t, none)

/-- Lines 46-54 up to the output loop. -/
def coinbaseOutputs (rt : Runtime) (address : String) (txB64 : JVal) :
    Except PyExc (List JVal) := do
  let signedTx ← decodeTransaction rt txB64
  if (← signedTx.get "algorithm" .none).isStr "coinbase" then
    if (← signedTx.get "signer_key" .none).isStr address then
      let innerTx ← decodeInnerTransaction rt (← signedTx.sub "transaction")
      (← innerTx.get "outputs" (.list [])).iter
    else pure []
  else pure []

/-- Lines 44-59: one transaction record. -/
def scanTx (rt : Runtime) (address : String) (txB64 : JVal) : Step Tally := fun t =>
  match coinbaseOutputs rt address txB64 with
  | .ok outputs => forLoop (creditOutput address) outputs t
  | .error e => (t, some e)

/-- Lines 38-59, the body of the `try`; lines 38-39 read the same path as the HTTP scanner. -/
def scanBlock (rt : Runtime) (address : String) (response : Except PyExc JVal) : Step Tally :=
  fun t =>
    match BalanceHandler.txsField response with
    | .error e => (t, some e)
    | .ok txs =>
      if !txs.truthy then (t, none)
      else
        match txs.iter with
        | .ok records => forLoop (scanTx rt address) records t
        | .error e => (t, some e)

/-- Lines 36-63. -/
def scanHeights (rt : Runtime) (rpc : Rpc) (address : String) : List Nat → Tally → Tally :=
  replay (scanBlock rt address) (getBlock rpc)

/-- Lines 28-70: the balance, once the summary of lines 65-68 has been printed. -/
def calculateBalance (rt : Runtime) (rpc : Rpc) (address : String) : Except PyExc Int := do
  let latestHeight ← getLatestHeight rt rpc
  let t := scanHeights rt rpc address (List.range' 1 latestHeight.toNat) 0
  trueDiv t.balance 100000000
  if 0 < t.miningRewards then trueDiv t.balance t.miningRewards
  pure t.balance

theorem creditOutput_shifts (address : String) (output : JVal) :
    (creditOutput address output).Shifts := by
  intro t
  simp only [Step.delta, creditOutput, Tally.zero_balance, Tally.zero_miningRewards]
  rcases output.get "address" .none with e | a
  · simp
  by_cases pays : a.isStr address
  · rcases output.get "value" (.int 0) with e | v
    · simp [pays]
    rcases hb : addInt 0 v with e | b
    · simp [pays, hb, BalanceHandler.addInt_eq t.balance v, Except.map]
    have ht : addInt t.balance v = .ok (t.balance + b) := by
      rw [BalanceHandler.addInt_eq, hb]; rfl
    rcases hp : printReward v with e | _ <;> simp only [pays, if_true, hb, ht, hp] <;>
      exact Prod.ext (Tally.ext (by simp) (by simp)) rfl
  · simp [pays]

theorem scanTx_shifts (rt : Runtime) (address : String) (txB64 : JVal) :
    (scanTx rt address txB64).Shifts := by
  intro t
  simp only [scanTx, Step.delta]
  cases coinbaseOutputs rt address txB64 with
  | ok outputs => exact forLoop_shifts (creditOutput_shifts address) outputs t
  | error e => simp

theorem scanBlock_shifts (rt : Runtime) (address : String) (response : Except PyExc JVal) :
    (scanBlock rt address response).Shifts := by
  intro t
  simp only [scanBlock, Step.delta]
  rcases BalanceHandler.txsField response with e | txs
  · simp
  rcases htr : txs.truthy
  · simp [htr]
  rcases hi : txs.iter with e | records
  · simp [htr, hi]
  simpa [htr, hi] using forLoop_shifts (scanTx_shifts rt address) records t

/-- The reward line this output would print, if it is credited, fits a float. -/
def quietOutput (address : String) (output : JVal) : Bool :=
  match output.get "address" .none, output.get "value" (.int 0) with
  | .ok a, .ok (.int n) => !a.isStr address || !trueDivOverflows n 100000000
  | _, _ => true

def quietRecord (rt : Runtime) (address : String) (record : JVal) : Bool :=
  match BalanceHandler.coinbaseOutputs rt address record with
  | .ok outputs => outputs.all (quietOutput address)
  | .error _ => true

/-- Every reward line line 59 could print for this block fits a float. -/
def quietBlock (rt : Runtime) (address : String) (response : Except PyExc JVal) : Bool :=
  match BalanceHandler.blockTxs response with
  | .ok records => records.all (quietRecord rt address)
  | .error _ => true

theorem creditOutput_eq_of_quiet {address : String} {output : JVal}
    (quiet : quietOutput address output) (t : Tally) :
    creditOutput address output t = atomic (BalanceHandler.creditOutput address output) t := by
  rcases ha : output.get "address" .none with e | a
  · simp [creditOutput, atomic, BalanceHandler.creditOutput, ha, bind, Except.bind]
  by_cases pays : a.isStr address
  · rcases hv : output.get "value" (.int 0) with e | v
    · simp [creditOutput, atomic, BalanceHandler.creditOutput, ha, hv, pays, bind, Except.bind]
    cases v <;> simp_all [quietOutput, creditOutput, atomic, BalanceHandler.creditOutput, printReward,
      trueDiv, addInt, intAdd, bind, Except.bind, pure, Except.pure]
  · simp [creditOutput, atomic, BalanceHandler.creditOutput, ha, pays, bind, Except.bind, pure,
      Except.pure]

theorem forLoop_congr {f g : α → Step σ} : ∀ {xs : List α}, (∀ x ∈ xs, ∀ s, f x s = g x s) →
    ∀ s, forLoop f xs s = forLoop g xs s
  | [], _, s => rfl
  | x :: xs, same, s => by
    simp only [forLoop, same x (List.mem_cons_self x xs) s,
      forLoop_congr (fun y hy => same y (List.mem_cons_of_mem x hy))]

theorem scanTx_eq_of_quiet {rt : Runtime} {address : String} {record : JVal}
    (quiet : quietRecord rt address record) (t : Tally) :
    scanTx rt address record t = BalanceHandler.scanTx rt address record t := by
  have same : coinbaseOutputs rt address record = BalanceHandler.coinbaseOutputs rt address record := rfl
  rcases hc : BalanceHandler.coinbaseOutputs rt address record with e | outputs
  · simp [scanTx, BalanceHandler.scanTx, same, hc]
  simp only [quietRecord, hc, List.all_eq_true] at quiet
  simp only [scanTx, BalanceHandler.scanTx, same, hc]
  exact forLoop_congr (fun o ho s => creditOutput_eq_of_quiet (quiet o ho) s) t

theorem iter_of_not_truthy {v : JVal} (falsy : v.truthy = false) :
    (∃ e, v.iter = .error e) ∨ v.iter = .ok [] := by
  cases v <;> simp_all [JVal.truthy, JVal.iter]

theorem scanBlock_fst_eq {rt : Runtime} {address : String} {response : Except PyExc JVal}
    (quiet : quietBlock rt address response) (t : Tally) :
    (scanBlock rt address response t).1 = (BalanceHandler.scanBlock rt address response t).1 := by
  simp only [scanBlock, BalanceHandler.scanBlock, BalanceHandler.blockTxs]
  rcases hf : BalanceHandler.txsField response with e | txs
  · rfl
  simp only [quietBlock, BalanceHandler.blockTxs, hf] at quiet
  cases tr : txs.truthy
  · rcases iter_of_not_truthy tr with ⟨e, he⟩ | he <;> simp [he, tr, bind, Except.bind]
  · rcases hi : txs.iter with e | records
    · simp [hi, tr, bind, Except.bind]
    simp only [hi, bind, Except.bind, List.all_eq_true] at quiet
    simp only [hi, tr, bind, Except.bind, Bool.not_true, Bool.false_eq_true, if_false]
    rw [forLoop_congr (fun r hr s => scanTx_eq_of_quiet (quiet r hr) s)]

theorem scanHeights_eq_of_quiet {rt : Runtime} {rpc : Rpc} {address : String} :
    ∀ {hs : List Nat}, (∀ h ∈ hs, quietBlock rt address (rpc.block h)) →
      ∀ t, scanHeights rt rpc address hs t = BalanceHandler.scanHeights rt rpc address hs t
  | _, quiet, t => replay_congr (fun h hh s => scanBlock_fst_eq (quiet h hh) s) t

/-- Where no credited reward is too large to print, the CLI returns a balance exactly when
the HTTP scanner does and its summary can print it, and the two balances are equal. -/
theorem calculateBalance_agrees (rt : Runtime) (rpc : Rpc) (address : String)
    (quiet : ∀ n, BalanceHandler.latestHeight rt rpc.status = .ok n →
      ∀ h ∈ List.range' 1 n.toNat, quietBlock rt address (rpc.block h)) (b : Int) :
    calculateBalance rt rpc address = .ok b ↔
      ∃ t, BalanceHandler.calculateBalance rt rpc address = .ok t ∧ t.balance = b ∧
        trueDivOverflows t.balance 100000000 = false ∧
        (0 < t.miningRewards → trueDivOverflows t.balance t.miningRewards = false) := by
  have same : getLatestHeight rt rpc = BalanceHandler.latestHeight rt rpc.status := rfl
  rcases hl : BalanceHandler.latestHeight rt rpc.status with e | n
  · simp [calculateBalance, BalanceHandler.calculateBalance, same, hl]
  rw [calculateBalance, BalanceHandler.calculateBalance, same, hl, ok_bind]
  simp only [scanHeights_eq_of_quiet (quiet n hl)]
  generalize BalanceHandler.scanHeights rt rpc address (List.range' 1 n.toNat) 0 = t
  cases big : trueDivOverflows t.balance 100000000 <;>
    cases avg : trueDivOverflows t.balance t.miningRewards <;>
    by_cases pos : 0 < t.miningRewards <;>
    simp only [trueDiv, big, avg, pos, if_true, if_false, Bool.false_eq_true, ok_bind, error_bind] <;>
    simp [pure, Except.pure, big, avg, pos]

set_option exponentiation.threshold 1100 in
theorem calculateBalance_agrees_rewardRecord :
    calculateBalance Reference.runtime (Rpc.ofBlocks [[BalanceHandler.rewardRecord]]) "S" = .ok 5 ↔
      ∃ t, BalanceHandler.calculateBalance Reference.runtime
          (Rpc.ofBlocks [[BalanceHandler.rewardRecord]]) "S" = .ok t ∧ t.balance = 5 ∧
        trueDivOverflows t.balance 100000000 = false ∧
        (0 < t.miningRewards → trueDivOverflows t.balance t.miningRewards = false) :=
  calculateBalance_agrees _ _ _ (fun n height => by
    obtain rfl : n = 1 := Except.ok.inj (height.symm.trans (by decide))
    decide) 5

/-- A coinbase of `S` whose inner transaction is `{"outputs":[{"address":"S","value":V}]}`
with `V = 2^1024`. -/
def hugeRewardRecord : JVal := .str (
  "eyJhbGdvcml0aG0iOiJjb2luYmFzZSIsInNpZ25lcl9rZXkiOiJTIiwidHJhbnNhY3Rpb24iOiJleUp2ZFhS" ++
  "d2RYUnpJanBiZXlKaFpHUnlaWE56SWpvaVV5SXNJblpoYkhWbElqb3hOemszTmprek1UTTBPRFl5TXpFMU9U" ++
  "QTNOekk1TXpBMU1Ua3dOemc1TURJME56TXpOakUzT1RjMk9UYzRPVFF5TXpBMk5UY3lOek0wTXpBd09ERXhO" ++
  "VGMzTXpJMk56VTRNRFUxTURBNU5qTXhNekkzTURnME56Y3pNakkwTURjMU16WXdNakV4TWpBeE1UTTROems0" ++
  "TnpFek9UTXpOVGMyTlRnM09EazNOamc0TVRRME1UWTJNakkwT1RJNE5EYzBNekEyTXprME56UXhNalF6Tnpj" ++
  "M05qYzRPVE0wTWpRNE5qVTBPRFV5TnpZek1ESXlNVGsyTURFeU5EWXdPVFF4TVRrME5UTXdPREk1TlRJd09E" ++
  "VXdNRFUzTmpnNE16Z3hOVEEyT0RJek5ESTBOakk0T0RFME56TTVNVE14TVRBMU5EQTRNamN5TXpjeE5qTXpO" ++
  "VEExTVRBMk9EUTFPRFl5T1RneU16azVORGN5TkRVNU16ZzBOemszTVRZek1EUTRNelV6TlRZek1qazJNalF5" ++
  "TWpReE16Y3lNVFo5WFgwPSJ9")

set_option maxRecDepth 8000 in
set_option exponentiation.threshold 1100 in
/-- A single reward of 2^1024 satoshis: the HTTP scanner reports it, the CLI raises on the
average reward of its summary. -/
theorem huge_reward_splits_scanners :
    BalanceHandler.calculateBalance Reference.runtime (Rpc.ofBlocks [[hugeRewardRecord]]) "S" =
      .ok ⟨((2 ^ 1024 : Nat) : Int), 1⟩ ∧
    calculateBalance Reference.runtime (Rpc.ofBlocks [[hugeRewardRecord]]) "S" =
      .error (.overflowError "integer division result too large for a float") := by
  decide

end Shadowy.CheckBalance
