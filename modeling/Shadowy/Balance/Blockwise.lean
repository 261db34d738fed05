import Shadowy.Balance.Handler
import Shadowy.Python.Reference

/-! The replay is a sum of per-block contributions. What a height adds depends only on the
block served there and the address, also when the block raises part way, because the
handler keeps the running totals and every statement adds to them without reading them.
Hence the order of the blocks does not matter and a longer chain adds the new blocks'
contributions to the old result: the incremental projection the spec asks for. -/

namespace Shadowy.BalanceHandler

theorem calculateBalance_eq_sum (rt : Runtime) (rpc : Rpc) (address : String) {n : Int}
    (height : latestHeight rt rpc.status = .ok n) :
    calculateBalance rt rpc address =
      .ok (((List.range' 1 n.toNat).map fun h => contribution rt address (rpc.block h)).sum) := by
  simp [calculateBalance, height, scanHeights_eq]

theorem calculateBalance_perm (rt : Runtime) (rpc rpc' : Rpc) (address : String)
    (height : latestHeight rt rpc'.status = latestHeight rt rpc.status)
    (perm : ∀ n, latestHeight rt rpc.status = .ok n →
      ((List.range' 1 n.toNat).map rpc'.block).Perm ((List.range' 1 n.toNat).map rpc.block)) :
    calculateBalance rt rpc' address = calculateBalance rt rpc address := by
  rcases hl : latestHeight rt rpc.status with e | n
  · simp [calculateBalance, height, hl]
  · rw [calculateBalance_eq_sum rt rpc address hl, calculateBalance_eq_sum rt rpc' address (height.trans hl)]
    have sums := ((perm n hl).map (contribution rt address)).sum_eq
    simpa only [List.map_map] using congrArg Except.ok sums

theorem calculateBalance_extend (rt : Runtime) (rpc rpc' : Rpc) (address : String) (n k : Nat)
    (height : latestHeight rt rpc.status = .ok n)
    (height' : latestHeight rt rpc'.status = .ok ((n + k : Nat) : Int))
    (same : ∀ h ≤ n, rpc'.block h = rpc.block h) :
    calculateBalance rt rpc' address = (calculateBalance rt rpc address).map
      (· + ((List.range' (n + 1) k).map fun h => contribution rt address (rpc'.block h)).sum) := by
  rw [calculateBalance_eq_sum rt rpc address height, calculateBalance_eq_sum rt rpc' address height']
  have old : (List.range' 1 n).map (fun h => contribution rt address (rpc'.block h)) =
      (List.range' 1 n).map (fun h => contribution rt address (rpc.block h)) :=
    List.map_congr_left fun h mem => by
      rw [same h (by simp [List.mem_range'] at mem; omega)]
  simp only [Int.toNat_ofNat]
  rw [Nat.add_comm n k, ← List.range'_append_1, List.map_append, List.sum_append, old,
    Nat.add_comm 1 n]
  rfl

/-- Each height adds a contribution of its own block and the address alone, the result is
the sum of the contributions, a permutation of the blocks leaves it unchanged, and extending
the chain adds the new blocks' contributions. -/
theorem calculateBalance_blockwise (rt : Runtime) (rpc : Rpc) (address : String) :
    (∀ response t, (scanBlock rt address response t).1 = t + contribution rt address response) ∧
    (∀ n, latestHeight rt rpc.status = .ok n → calculateBalance rt rpc address =
      .ok (((List.range' 1 n.toNat).map fun h => contribution rt address (rpc.block h)).sum)) ∧
    (∀ rpc' : Rpc, latestHeight rt rpc'.status = latestHeight rt rpc.status →
      (∀ n, latestHeight rt rpc.status = .ok n →
        ((List.range' 1 n.toNat).map rpc'.block).Perm ((List.range' 1 n.toNat).map rpc.block)) →
      calculateBalance rt rpc' address = calculateBalance rt rpc address) ∧
    (∀ (rpc' : Rpc) (n k : Nat), latestHeight rt rpc.status = .ok n →
      latestHeight rt rpc'.status = .ok ((n + k : Nat) : Int) →
      (∀ h ≤ n, rpc'.block h = rpc.block h) →
      calculateBalance rt rpc' address = (calculateBalance rt rpc address).map
        (· + ((List.range' (n + 1) k).map fun h => contribution rt address (rpc'.block h)).sum)) :=
  ⟨scanBlock_fst rt address, fun _ => calculateBalance_eq_sum rt rpc address,
    fun rpc' => calculateBalance_perm rt rpc rpc' address,
    fun rpc' n k => calculateBalance_extend rt rpc rpc' address n k⟩

/-- `{"algorithm":"coinbase","signer_key":"S","transaction":...}` whose inner transaction is
`{"outputs":[{"address":"S","value":5}]}`. -/
def rewardRecord : JVal := .str ("eyJhbGdvcml0aG0iOiJjb2luYmFzZSIsInNpZ25lcl9rZXkiOiJTIiwidHJh" ++
  "bnNhY3Rpb24iOiJleUp2ZFhSd2RYUnpJanBiZXlKaFpHUnlaWE56SWpvaVV5SXNJblpoYkhWbElqbzFmVjE5In0=")

def rewardChain (n : Nat) : Rpc := Rpc.ofBlocks (List.replicate n [rewardRecord])

theorem calculateBalance_blockwise_extend_one :
    latestHeight Reference.runtime (rewardChain 2).status = .ok ((2 : Nat) : Int) ∧
    latestHeight Reference.runtime (rewardChain 3).status = .ok ((2 + 1 : Nat) : Int) ∧
    (∀ h ≤ 2, (rewardChain 3).block h = (rewardChain 2).block h) ∧
    calculateBalance Reference.runtime (rewardChain 3) "S" =
      (calculateBalance Reference.runtime (rewardChain 2) "S").map (· + ((List.range' 3 1).map
        fun h => contribution Reference.runtime "S" ((rewardChain 3).block h)).sum) ∧
    calculateBalance Reference.runtime (rewardChain 3) "S" = .ok ⟨15, 3⟩ :=
  have kept : ∀ h ≤ 2, (rewardChain 3).block h = (rewardChain 2).block h :=
    fun | 0, _ => rfl | 1, _ => rfl | 2, _ => rfl
  ⟨rfl, rfl, kept,
    (calculateBalance_blockwise Reference.runtime (rewardChain 2) "S").2.2.2 _ 2 1 rfl rfl kept,
    by decide⟩

end Shadowy.BalanceHandler
