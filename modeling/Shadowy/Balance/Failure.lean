import Shadowy.Balance.CheckBalance

/-! What a height whose `try` raises leaves in the totals. Both scanners add to `balance` and
`mining_rewards` in place and the handler rolls nothing back, so a block that raises keeps
every credit made before the raising statement: the records before the failing one in full,
and the outputs of the failing record before its failing output. -/

namespace Shadowy.BalanceHandler

theorem scanTx_raise (rt : Runtime) (address : String) (record : JVal) {e : PyExc}
    (raised : (scanTx rt address record 0).2 = some e) :
    (coinbaseOutputs rt address record = .error e ∧ (scanTx rt address record).delta = 0) ∨
    ∃ credited failing later,
      coinbaseOutputs rt address record = .ok (credited ++ failing :: later) ∧
      (∀ o ∈ credited, (atomic (creditOutput address o) 0).2 = none) ∧
      creditOutput address failing 0 = .error e ∧
      (scanTx rt address record).delta =
        (credited.map fun o => (atomic (creditOutput address o)).delta).sum := by
  have shift := fun o => atomic_shifts (creditOutput_eq address o)
  rcases hc : coinbaseOutputs rt address record with e' | outputs
  · simp only [scanTx, hc, Option.some.injEq] at raised
    exact .inl ⟨congrArg _ raised, by simp [Step.delta, scanTx, hc]⟩
  simp only [scanTx, hc] at raised
  obtain ⟨credited, failing, later, rfl, ok, fails⟩ := forLoop_raise_split shift raised
  have failed : creditOutput address failing 0 = .error e := by
    cases h : creditOutput address failing 0 <;> simp_all [atomic]
  refine .inr ⟨credited, failing, later, rfl, ok, failed, ?_⟩
  simp [Step.delta, scanTx, hc, forLoop_first_raise shift credited failing later ok fails 0, atomic,
    failed]

theorem scanBlock_raise (rt : Runtime) (address : String) (response : Except PyExc JVal)
    (t : Tally) {e : PyExc} (raised : (scanBlock rt address response t).2 = some e) :
    (blockTxs response = .error e ∧ (scanBlock rt address response t).1 = t) ∨
    ∃ good bad rest, blockTxs response = .ok (good ++ bad :: rest) ∧
      (∀ r ∈ good, (scanTx rt address r 0).2 = none) ∧ (scanTx rt address bad 0).2 = some e ∧
      (scanBlock rt address response t).1 =
        t + (good.map fun r => (scanTx rt address r).delta).sum + (scanTx rt address bad).delta := by
  rcases hb : blockTxs response with e' | records
  · simp only [scanBlock, hb, Option.some.injEq] at raised
    exact .inl ⟨congrArg _ raised, by simp [scanBlock, hb]⟩
  simp only [scanBlock, hb] at raised ⊢
  obtain ⟨good, bad, rest, rfl, ok, fails⟩ := forLoop_raise_split (scanTx_shifts rt address) raised
  exact .inr ⟨good, bad, rest, rfl, ok, fails,
    by rw [forLoop_first_raise (scanTx_shifts rt address) good bad rest ok fails t]⟩

end Shadowy.BalanceHandler

namespace Shadowy.CheckBalance

theorem creditOutput_raise (address : String) (output : JVal) {e : PyExc}
    (raised : (creditOutput address output 0).2 = some e) :
    (creditOutput address output).delta = 0 ∨ ∃ n, output.get "value" (.int 0) = .ok (.int n) ∧
      trueDiv n 100000000 = .error e ∧ (creditOutput address output).delta = ⟨n, 1⟩ := by
  simp only [Step.delta, creditOutput, Tally.zero_balance] at raised ⊢
  rcases ha : output.get "address" .none with e' | a
  · exact .inl rfl
  by_cases pays : a.isStr address
  · rcases hv : output.get "value" (.int 0) with e' | v
    · simp [pays]
    rcases hb : addInt 0 v with e' | b
    · simp [pays, hb]
    rcases hp : printReward v with e' | _ <;> simp only [ha, hv, pays, hb, hp, if_true] at raised
    · cases v <;> simp_all [printReward, addInt, intAdd]
    · cases raised
  · simp [pays]

theorem scanTx_raise (rt : Runtime) (address : String) (record : JVal) {e : PyExc}
    (raised : (scanTx rt address record 0).2 = some e) :
    (coinbaseOutputs rt address record = .error e ∧ (scanTx rt address record).delta = 0) ∨
    ∃ credited failing later,
      coinbaseOutputs rt address record = .ok (credited ++ failing :: later) ∧
      (∀ o ∈ credited, (creditOutput address o 0).2 = none) ∧
      (creditOutput address failing 0).2 = some e ∧
      (scanTx rt address record).delta =
        (credited.map fun o => (creditOutput address o).delta).sum +
          (creditOutput address failing).delta := by
  have shift := creditOutput_shifts address
  rcases hc : coinbaseOutputs rt address record with e' | outputs
  · simp only [scanTx, hc, Option.some.injEq] at raised
    exact .inl ⟨congrArg _ raised, by simp [Step.delta, scanTx, hc]⟩
  simp only [scanTx, hc] at raised
  obtain ⟨credited, failing, later, rfl, ok, fails⟩ := forLoop_raise_split shift raised
  refine .inr ⟨credited, failing, later, rfl, ok, fails, ?_⟩
  show (scanTx rt address _ 0).1 = _
  simp only [scanTx, hc, forLoop_first_raise shift credited failing later ok fails 0, zero_add]

theorem scanBlock_raise (rt : Runtime) (address : String) (response : Except PyExc JVal)
    (t : Tally) {e : PyExc} (raised : (scanBlock rt address response t).2 = some e) :
    (BalanceHandler.blockTxs response = .error e ∧ (scanBlock rt address response t).1 = t) ∨
    ∃ good bad rest, BalanceHandler.blockTxs response = .ok (good ++ bad :: rest) ∧
      (∀ r ∈ good, (scanTx rt address r 0).2 = none) ∧ (scanTx rt address bad 0).2 = some e ∧
      (scanBlock rt address response t).1 =
        t + (good.map fun r => (scanTx rt address r).delta).sum + (scanTx rt address bad).delta := by
  rcases hf : BalanceHandler.txsField response with e' | txs
  · simp only [scanBlock, hf, Option.some.injEq] at raised
    exact .inl ⟨by simp [BalanceHandler.blockTxs, hf, raised], by simp [scanBlock, hf]⟩
  rcases htr : txs.truthy
  · simp [scanBlock, hf, htr] at raised
  rcases hi : txs.iter with e' | records
  · simp only [scanBlock, hf, htr, hi, Bool.not_true, Bool.false_eq_true, if_false,
      Option.some.injEq] at raised
    exact .inl ⟨by simp [BalanceHandler.blockTxs, hf, hi, raised, bind, Except.bind],
      by simp [scanBlock, hf, htr, hi]⟩
  simp only [scanBlock, hf, htr, hi, Bool.not_true, Bool.false_eq_true, if_false] at raised ⊢
  obtain ⟨good, bad, rest, rfl, ok, fails⟩ := forLoop_raise_split (scanTx_shifts rt address) raised
  exact .inr ⟨good, bad, rest, by simp [BalanceHandler.blockTxs, hf, hi, bind, Except.bind], ok,
    fails, by rw [forLoop_first_raise (scanTx_shifts rt address) good bad rest ok fails t]⟩

end Shadowy.CheckBalance

namespace Shadowy

/-- A height whose `try` raises moves the totals, in either scanner, by the credits made
before the exception: nothing when the block cannot be read, otherwise all the credits of
the records before the failing record and the credits of the failing record's outputs before
its failing output. The CLI also keeps the credit of an output whose printed reward
overflows. -/
theorem failed_block_keeps_earlier_credits (rt : Runtime) (address : String) :
    (∀ response t e, (BalanceHandler.scanBlock rt address response t).2 = some e →
      (BalanceHandler.blockTxs response = .error e ∧
          (BalanceHandler.scanBlock rt address response t).1 = t) ∨
        ∃ good bad rest, BalanceHandler.blockTxs response = .ok (good ++ bad :: rest) ∧
          (∀ r ∈ good, (BalanceHandler.scanTx rt address r 0).2 = none) ∧
          (BalanceHandler.scanTx rt address bad 0).2 = some e ∧
          (BalanceHandler.scanBlock rt address response t).1 =
            t + (good.map fun r => (BalanceHandler.scanTx rt address r).delta).sum +
              (BalanceHandler.scanTx rt address bad).delta) ∧
    (∀ record e, (BalanceHandler.scanTx rt address record 0).2 = some e →
      (BalanceHandler.coinbaseOutputs rt address record = .error e ∧
          (BalanceHandler.scanTx rt address record).delta = 0) ∨
        ∃ credited failing later,
          BalanceHandler.coinbaseOutputs rt address record = .ok (credited ++ failing :: later) ∧
          (∀ o ∈ credited, (atomic (BalanceHandler.creditOutput address o) 0).2 = none) ∧
          BalanceHandler.creditOutput address failing 0 = .error e ∧
          (BalanceHandler.scanTx rt address record).delta =
            (credited.map fun o => (atomic (BalanceHandler.creditOutput address o)).delta).sum) ∧
    (∀ response t e, (CheckBalance.scanBlock rt address response t).2 = some e →
      (BalanceHandler.blockTxs response = .error e ∧
          (CheckBalance.scanBlock rt address response t).1 = t) ∨
        ∃ good bad rest, BalanceHandler.blockTxs response = .ok (good ++ bad :: rest) ∧
          (∀ r ∈ good, (CheckBalance.scanTx rt address r 0).2 = none) ∧
          (CheckBalance.scanTx rt address bad 0).2 = some e ∧
          (CheckBalance.scanBlock rt address response t).1 =
            t + (good.map fun r => (CheckBalance.scanTx rt address r).delta).sum +
              (CheckBalance.scanTx rt address bad).delta) ∧
    (∀ record e, (CheckBalance.scanTx rt address record 0).2 = some e →
      (CheckBalance.coinbaseOutputs rt address record = .error e ∧
          (CheckBalance.scanTx rt address record).delta = 0) ∨
        ∃ credited failing later,
          CheckBalance.coinbaseOutputs rt address record = .ok (credited ++ failing :: later) ∧
          (∀ o ∈ credited, (CheckBalance.creditOutput address o 0).2 = none) ∧
          (CheckBalance.creditOutput address failing 0).2 = some e ∧
          (CheckBalance.scanTx rt address record).delta =
            (credited.map fun o => (CheckBalance.creditOutput address o).delta).sum +
              (CheckBalance.creditOutput address failing).delta) ∧
    ∀ output e, (CheckBalance.creditOutput address output 0).2 = some e →
      (CheckBalance.creditOutput address output).delta = 0 ∨
        ∃ n, output.get "value" (.int 0) = .ok (.int n) ∧ trueDiv n 100000000 = .error e ∧
          (CheckBalance.creditOutput address output).delta = ⟨n, 1⟩ :=
  ⟨fun response t _ raised => BalanceHandler.scanBlock_raise rt address response t raised,
    fun record _ raised => BalanceHandler.scanTx_raise rt address record raised,
    fun response t _ raised => CheckBalance.scanBlock_raise rt address response t raised,
    fun record _ raised => CheckBalance.scanTx_raise rt address record raised,
    fun output _ raised => CheckBalance.creditOutput_raise address output raised⟩

set_option exponentiation.threshold 1100 in
/-- A reward, then a record that is not JSON: the block raises after the reward is credited,
and both scanners keep it. -/
theorem failed_block_keeps_reward :
    (BalanceHandler.scanBlock Reference.runtime "S"
        ((Rpc.ofBlocks [[BalanceHandler.rewardRecord, BalanceHandler.garbledRecord]]).block 1)
        0).2.isSome ∧
    (BalanceHandler.scanBlock Reference.runtime "S"
        ((Rpc.ofBlocks [[BalanceHandler.rewardRecord, BalanceHandler.garbledRecord]]).block 1)
        0).1 = ⟨5, 1⟩ ∧
    (CheckBalance.scanBlock Reference.runtime "S"
        ((Rpc.ofBlocks [[BalanceHandler.rewardRecord, BalanceHandler.garbledRecord]]).block 1)
        0).2.isSome ∧
    (CheckBalance.scanBlock Reference.runtime "S"
        ((Rpc.ofBlocks [[BalanceHandler.rewardRecord, BalanceHandler.garbledRecord]]).block 1)
        0).1 = ⟨5, 1⟩ ∧
    BalanceHandler.calculateBalance Reference.runtime
      (Rpc.ofBlocks [[BalanceHandler.rewardRecord, BalanceHandler.garbledRecord]]) "S" =
        .ok ⟨5, 1⟩ := by
  decide

end Shadowy
