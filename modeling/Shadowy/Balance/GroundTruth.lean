import Shadowy.Balance.Blockwise
import Shadowy.Python.Reference

/-! The spec's ground truth for an address (§8): over heights `1..n`, over the coinbase
transactions the address signed, over their outputs to the address, the sum of the output
values (0 when absent). It is read off the decoded JSON with plain lookups, apart from the
scanner's loops. On a well-formed chain (every record decodes to an object and every
coinbase of the address carries an inner object whose outputs are objects with integer
values) the replay computes exactly this sum, and counts the paying outputs. -/

namespace Shadowy

namespace GroundTruth

def field : JVal → String → Option JVal
  | .dict items, key => items.lookup key
  | _, _ => none

/-- An output's `value`, 0 when absent. -/
def outputValue (o : JVal) : Int :=
  match field o "value" with
  | some (.int n) => n
  | _ => 0

def paysTo (address : String) (o : JVal) : Bool := (field o "address").any (·.isStr address)

def isCoinbaseOf (address : String) (tx : JVal) : Bool :=
  (field tx "algorithm").any (·.isStr "coinbase") && (field tx "signer_key").any (·.isStr address)

/-- The outputs of the inner transaction of a decoded signed transaction. -/
def innerOutputs (rt : Runtime) (tx : JVal) : List JVal :=
  match (field tx "transaction").map rt.loadsB64 with
  | some (.ok inner) =>
    match (field inner "outputs").getD (.list []) with
    | .list outputs => outputs
    | _ => []
  | _ => []

/-- What one record pays the address. -/
def recordTotal (rt : Runtime) (address : String) (record : JVal) : Int :=
  match rt.loadsB64 record with
  | .ok tx =>
    if isCoinbaseOf address tx then
      (((innerOutputs rt tx).filter (paysTo address)).map outputValue).sum
    else 0
  | .error _ => 0

/-- `result.block.data.txs` of a block response. -/
def records : Except PyExc JVal → List JVal
  | .ok data =>
    match field data "result" >>= (field · "block") >>= (field · "data") >>= (field · "txs") with
    | some (.list rs) => rs
    | _ => []
  | .error _ => []

def blockTotal (rt : Runtime) (address : String) (response : Except PyExc JVal) : Int :=
  ((records response).map (recordTotal rt address)).sum

def groundTruth (rt : Runtime) (rpc : Rpc) (address : String) (n : Nat) : Int :=
  ((List.range' 1 n).map fun h => blockTotal rt address (rpc.block h)).sum

/-- The coinbase transactions of the address in a block that pay it at least once. -/
def rewardTransactions (rt : Runtime) (address : String) (response : Except PyExc JVal) : Nat :=
  ((records response).filter fun record =>
    match rt.loadsB64 record with
    | .ok tx => isCoinbaseOf address tx && (innerOutputs rt tx).any (paysTo address)
    | .error _ => false).length

/-- The outputs to the address of the coinbases it signed, one per credited output. -/
def payingOutputs (rt : Runtime) (address : String) (record : JVal) : Nat :=
  match rt.loadsB64 record with
  | .ok tx => if isCoinbaseOf address tx then ((innerOutputs rt tx).filter (paysTo address)).length
    else 0
  | .error _ => 0

def wellFormedOutput : JVal → Bool
  | .dict items =>
    match items.lookup "value" with
    | some (.int _) | none => true
    | _ => false
  | _ => false

def wellFormedRecord (rt : Runtime) (address : String) (record : JVal) : Bool :=
  match rt.loadsB64 record with
  | .ok (.dict items) =>
    !isCoinbaseOf address (.dict items) ||
      match (items.lookup "transaction").map rt.loadsB64 with
      | some (.ok (.dict inner)) =>
        match (inner.lookup "outputs").getD (.list []) with
        | .list outputs => outputs.all wellFormedOutput
        | _ => false
      | _ => false
  | _ => false

def wellFormedBlock (rt : Runtime) (address : String) (response : Except PyExc JVal) : Bool :=
  match response with
  | .ok data =>
    match field data "result" >>= (field · "block") >>= (field · "data") >>= (field · "txs") with
    | some (.list rs) => rs.all (wellFormedRecord rt address)
    | _ => false
  | .error _ => false

end GroundTruth

namespace BalanceHandler

open GroundTruth

@[simp] theorem getD_none_isStr (o : Option JVal) (s : String) :
    (o.getD .none).isStr s = o.any (·.isStr s) := by
  cases o <;> rfl

theorem coinbaseOutputs_of_wellFormed (rt : Runtime) (address : String) {record : JVal}
    (wf : wellFormedRecord rt address record) :
    ∃ tx, rt.loadsB64 record = .ok tx ∧
      coinbaseOutputs rt address record =
        .ok (if isCoinbaseOf address tx then innerOutputs rt tx else []) ∧
      ∀ o ∈ (if isCoinbaseOf address tx then innerOutputs rt tx else []), wellFormedOutput o := by
  rcases hr : rt.loadsB64 record with e | tx
  · simp [wellFormedRecord, hr] at wf
  refine ⟨tx, rfl, ?_⟩
  cases tx with
  | dict items =>
    by_cases cb : isCoinbaseOf address (.dict items)
    · have ⟨ha, hs⟩ : (items.lookup "algorithm").any (·.isStr "coinbase") = true ∧
          (items.lookup "signer_key").any (·.isStr address) = true := by
        simpa [isCoinbaseOf, field] using cb
      simp only [wellFormedRecord, hr, cb, Bool.not_true, Bool.false_or] at wf
      rcases ht : items.lookup "transaction" with _ | v
      · simp [ht] at wf
      rcases hi : rt.loadsB64 v with e | inner
      · simp [ht, hi] at wf
      cases inner with
      | dict innerItems =>
        simp only [ht, hi, Option.map_some'] at wf
        split at wf
        · rename_i outputs hos
          simp only [cb, if_true, innerOutputs, field, ht, Option.map_some', hi, hos]
          refine ⟨?_, by simpa using wf⟩
          simp [coinbaseOutputs, hr, ha, hs, ht, hi, hos, bind, Except.bind, JVal.sub]
        · simp at wf
      | _ => simp [ht, hi] at wf
    · simp only [cb, if_false, List.not_mem_nil, false_imp_iff, implies_true, and_true]
      simp only [isCoinbaseOf, field, Bool.and_eq_true, not_and] at cb
      by_cases ha : (items.lookup "algorithm").any (·.isStr "coinbase")
      · simp [coinbaseOutputs, hr, ha, cb ha, bind, Except.bind, pure, Except.pure]
      · simp [coinbaseOutputs, hr, ha, bind, Except.bind, pure, Except.pure]
  | _ => simp [wellFormedRecord, hr] at wf

/-- What one output adds when the loop reaches it. -/
def outputTally (address : String) (o : JVal) : Tally :=
  if paysTo address o then ⟨outputValue o, 1⟩ else 0

theorem creditOutput_of_wellFormed (address : String) {o : JVal} (wf : wellFormedOutput o) :
    creditOutput address o 0 = .ok (outputTally address o) := by
  cases o with
  | dict items =>
    by_cases pays : paysTo address (.dict items)
    · have hp : ((items.lookup "address").getD .none).isStr address = true := by
        simpa [paysTo, field] using pays
      simp only [creditOutput, JVal.get_dict, hp, outputTally, pays, bind, Except.bind, if_true]
      rcases hv : items.lookup "value" with _ | v
      · simp [outputValue, field, hv, addInt, intAdd, pure, Except.pure]
      · cases v <;> simp_all [wellFormedOutput, outputValue, field, addInt, intAdd, pure, Except.pure]
    · have hp : ((items.lookup "address").getD .none).isStr address = false := by
        simpa [paysTo, field] using pays
      simp [creditOutput, hp, outputTally, pays, bind, Except.bind, pure, Except.pure]
  | _ => simp [wellFormedOutput] at wf

theorem sum_outputTally (address : String) (os : List JVal) :
    (os.map (outputTally address)).sum =
      ⟨((os.filter (paysTo address)).map outputValue).sum, (os.filter (paysTo address)).length⟩ := by
  induction os with
  | nil => rfl
  | cons o os ih =>
    by_cases pays : paysTo address o
    · simp only [outputTally, pays, List.filter_cons, List.map_cons, List.sum_cons, ih, if_true]
      ext <;> simp [add_comm]
    · simp [outputTally, pays, List.filter_cons, ih]

theorem scanTx_of_wellFormed (rt : Runtime) (address : String) {record : JVal}
    (wf : wellFormedRecord rt address record) (t : Tally) :
    scanTx rt address record t =
      (t + ⟨recordTotal rt address record, payingOutputs rt address record⟩, none) := by
  obtain ⟨tx, hr, hc, hwf⟩ := coinbaseOutputs_of_wellFormed rt address wf
  have credit : ∀ o ∈ (if isCoinbaseOf address tx then innerOutputs rt tx else []),
      atomic (creditOutput address o) 0 = (outputTally address o, none) := fun o ho => by
    simp [atomic, creditOutput_of_wellFormed address (hwf o ho)]
  simp only [scanTx, hc]
  rw [forLoop_all_ok (fun o => atomic_shifts (creditOutput_eq address o)) _
    (fun o ho => by rw [credit o ho]) t, List.map_congr_left (fun o ho => by rw [Step.delta, credit o ho])]
  by_cases cb : isCoinbaseOf address tx <;>
    simp [cb, recordTotal, payingOutputs, hr, sum_outputTally]

theorem sub_of_field {v x : JVal} {key : String} (h : field v key = some x) : v.sub key = .ok x := by
  cases v <;> simp_all [field, JVal.sub]

theorem blockTxs_of_wellFormed (rt : Runtime) (address : String) {response : Except PyExc JVal}
    (wf : wellFormedBlock rt address response) :
    blockTxs response = .ok (records response) ∧
      ∀ r ∈ records response, wellFormedRecord rt address r := by
  rcases response with e | data
  · simp [wellFormedBlock] at wf
  simp only [wellFormedBlock] at wf
  split at wf
  · rename_i rs hrs
    simp only [Option.bind_eq_bind, Option.bind_eq_some] at hrs
    obtain ⟨d, ⟨b, ⟨r, hr, hb⟩, hd⟩, htxs⟩ := hrs
    simp only [records, Option.bind_eq_bind, hr, hb, hd, htxs, Option.some_bind]
    refine ⟨?_, by simpa using wf⟩
    simp [blockTxs, txsField, sub_of_field hr, sub_of_field hb, sub_of_field hd,
      sub_of_field htxs, bind, Except.bind]
  · simp at wf

theorem contribution_of_wellFormed (rt : Runtime) (address : String) {response : Except PyExc JVal}
    (wf : wellFormedBlock rt address response) :
    contribution rt address response = ⟨blockTotal rt address response,
      ((records response).map (payingOutputs rt address)).sum⟩ := by
  obtain ⟨htxs, hwf⟩ := blockTxs_of_wellFormed rt address wf
  have tx : ∀ r ∈ records response, scanTx rt address r 0 =
      (⟨recordTotal rt address r, payingOutputs rt address r⟩, none) := fun r hr => by
    rw [scanTx_of_wellFormed rt address (hwf r hr), zero_add]
  simp only [contribution, Step.delta, scanBlock, htxs]
  rw [forLoop_all_ok (scanTx_shifts rt address) _ (fun r hr => by rw [tx r hr]),
    List.map_congr_left (fun r hr => by rw [Step.delta, tx r hr])]
  ext <;> simp [blockTotal, Function.comp_def]

theorem calculateBalance_of_wellFormed (rt : Runtime) (rpc : Rpc) (address : String) (n : Nat)
    (height : latestHeight rt rpc.status = .ok n)
    (wf : ∀ h ∈ List.range' 1 n, wellFormedBlock rt address (rpc.block h)) :
    calculateBalance rt rpc address = .ok ⟨groundTruth rt rpc address n,
      ((List.range' 1 n).map fun h => ((records (rpc.block h)).map (payingOutputs rt address)).sum).sum⟩ := by
  rw [calculateBalance_eq_sum rt rpc address height, Int.toNat_ofNat,
    List.map_congr_left (fun h hh => contribution_of_wellFormed rt address (wf h hh))]
  congr 1
  ext <;> simp [groundTruth, Function.comp_def]

/-- On a well-formed chain the balance is the ground truth: every coinbase output to the
address counted once, nothing else. -/
theorem calculateBalance_eq_groundTruth (rt : Runtime) (rpc : Rpc) (address : String) (n : Nat)
    (height : latestHeight rt rpc.status = .ok n)
    (wf : ∀ h ∈ List.range' 1 n, wellFormedBlock rt address (rpc.block h)) :
    (calculateBalance rt rpc address).map Tally.balance = .ok (groundTruth rt rpc address n) := by
  rw [calculateBalance_of_wellFormed rt rpc address n height wf]
  rfl

theorem calculateBalance_eq_groundTruth_rewardRecord :
    latestHeight Reference.runtime (Rpc.ofBlocks [[rewardRecord]]).status = .ok (1 : Nat) ∧
    (∀ h ∈ List.range' 1 1,
      wellFormedBlock Reference.runtime "S" ((Rpc.ofBlocks [[rewardRecord]]).block h)) ∧
    (calculateBalance Reference.runtime (Rpc.ofBlocks [[rewardRecord]]) "S").map Tally.balance =
      .ok (groundTruth Reference.runtime (Rpc.ofBlocks [[rewardRecord]]) "S" 1) :=
  ⟨rfl, by decide, calculateBalance_eq_groundTruth _ _ _ 1 rfl (by decide)⟩

/-- One coinbase of `S` whose inner transaction is
`{"outputs":[{"address":"S","value":5},{"address":"S","value":7}]}`. -/
def doubleRewardRecord : JVal := .str ("eyJhbGdvcml0aG0iOiJjb2luYmFzZSIsInNpZ25lcl9rZXkiOiJTIiwidHJh" ++
  "bnNhY3Rpb24iOiJleUp2ZFhSd2RYUnpJanBiZXlKaFpHUnlaWE56SWpvaVV5SXNJblpoYkhWbElqbzFmU3g3SW1Ga1pI" ++
  "SmxjM01pT2lKVElpd2lkbUZzZFdVaU9qZDlYWDA9In0=")

set_option maxRecDepth 8000 in
/-- `mining_rewards` goes up inside the output loop: one reward transaction paying the
address twice is counted twice. -/
theorem calculateBalance_counts_each_output :
    calculateBalance Reference.runtime (Rpc.ofBlocks [[doubleRewardRecord]]) "S" = .ok ⟨12, 2⟩ ∧
      rewardTransactions Reference.runtime "S" ((Rpc.ofBlocks [[doubleRewardRecord]]).block 1) = 1 := by
  decide

/-- A block stops at its first record that raises: each record before it adds what its own
run adds, the ground-truth amount when it is well formed, the records after it add nothing,
and a record that raises before its output loop adds nothing itself. -/
theorem scanBlock_stops_at_malformed (rt : Runtime) (address : String)
    {response : Except PyExc JVal} {good : List JVal} {bad : JVal} {rest : List JVal}
    (txs : blockTxs response = .ok (good ++ bad :: rest))
    (quiet : ∀ r ∈ good, (scanTx rt address r 0).2 = none)
    (malformed : (scanTx rt address bad 0).2.isSome) (t : Tally) :
    (scanBlock rt address response t).1 =
        t + (good.map fun r => (scanTx rt address r).delta).sum + (scanTx rt address bad).delta ∧
      (∀ r, wellFormedRecord rt address r →
        (scanTx rt address r).delta = ⟨recordTotal rt address r, payingOutputs rt address r⟩) ∧
      ∀ e, coinbaseOutputs rt address bad = .error e → (scanTx rt address bad).delta = 0 := by
  obtain ⟨e, he⟩ := Option.isSome_iff_exists.mp malformed
  refine ⟨?_, fun r wf => ?_, fun e he => by simp [Step.delta, scanTx, he]⟩
  · simp only [scanBlock, txs]
    rw [forLoop_first_raise (scanTx_shifts rt address) good bad rest quiet he]
  · rw [Step.delta, scanTx_of_wellFormed rt address wf, zero_add]

/-- `base64("not json")`. -/
def garbledRecord : JVal := .str "bm90IGpzb24="

/-- A coinbase of `S` whose inner transaction is
`{"outputs":[{"address":"T","value":"x"},{"address":"S","value":5}]}`: not well formed, yet
it raises nothing, since the output with the string value is not the address's. -/
def strayOutputRecord : JVal := .str ("eyJhbGdvcml0aG0iOiJjb2luYmFzZSIsInNpZ25lcl9rZXkiOiJTIiwidHJh" ++
  "bnNhY3Rpb24iOiJleUp2ZFhSd2RYUnpJanBiZXlKaFpHUnlaWE56SWpvaVZDSXNJblpoYkhWbElqb2llQ0o5TEhzaVlX" ++
  "UmtjbVZ6Y3lJNklsTWlMQ0oyWVd4MVpTSTZOWDFkZlE9PSJ9")

set_option maxRecDepth 8000 in
theorem scanBlock_stops_at_malformed_strayOutput :
    blockTxs ((Rpc.ofBlocks [[strayOutputRecord, garbledRecord, rewardRecord]]).block 1) =
      .ok ([strayOutputRecord] ++ garbledRecord :: [rewardRecord]) ∧
    (∀ r ∈ [strayOutputRecord], (scanTx Reference.runtime "S" r 0).2 = none) ∧
    (scanTx Reference.runtime "S" garbledRecord 0).2.isSome ∧
    wellFormedRecord Reference.runtime "S" strayOutputRecord = false ∧
    (scanBlock Reference.runtime "S"
      ((Rpc.ofBlocks [[strayOutputRecord, garbledRecord, rewardRecord]]).block 1) 0).1 = ⟨5, 1⟩ ∧
    ((scanBlock Reference.runtime "S"
        ((Rpc.ofBlocks [[strayOutputRecord, garbledRecord, rewardRecord]]).block 1) 0).1 =
        0 + ([strayOutputRecord].map fun r => (scanTx Reference.runtime "S" r).delta).sum +
          (scanTx Reference.runtime "S" garbledRecord).delta ∧
      (∀ r, wellFormedRecord Reference.runtime "S" r → (scanTx Reference.runtime "S" r).delta =
        ⟨recordTotal Reference.runtime "S" r, payingOutputs Reference.runtime "S" r⟩) ∧
      ∀ e, coinbaseOutputs Reference.runtime "S" garbledRecord = .error e →
        (scanTx Reference.runtime "S" garbledRecord).delta = 0) :=
  ⟨rfl, by decide, by decide, by decide, by decide,
    @scanBlock_stops_at_malformed Reference.runtime "S"
      ((Rpc.ofBlocks [[strayOutputRecord, garbledRecord, rewardRecord]]).block 1)
      [strayOutputRecord] garbledRecord [rewardRecord] rfl (by decide) (by decide) 0⟩

/-- A garbled record ahead of a well-formed reward hides the reward. -/
theorem garbled_record_hides_reward :
    calculateBalance Reference.runtime (Rpc.ofBlocks [[garbledRecord, rewardRecord]]) "S" = .ok 0 ∧
      wellFormedRecord Reference.runtime "S" rewardRecord ∧
      recordTotal Reference.runtime "S" rewardRecord = 5 := by
  decide

end BalanceHandler

end Shadowy
