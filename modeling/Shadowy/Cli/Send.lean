import Shadowy.Wallet.Session

/-! The `wallet send` command (shadowy_cli.py, lines 979-1068). Like every command it builds a
fresh `ShadowyWASM` and starts the bridge, then calls the object's methods: `create_client`,
`load_wallet`, and, once the recipient, the amount and the user's confirmation are checked,
`send_transaction`. A check that fails prints and calls `sys.exit(1)`. Starting the bridge
(`load_wasm`) and the user's answer to `click.confirm` are inputs. Prints are left out, apart
from what they read that can raise. -/

namespace Shadowy.ShadowyCli

open ShadowyWASM

/-- How a command ends when no exception escapes it: it returns, or calls `sys.exit(1)`. -/
inductive Exit where
  | returns
  | exitOne
  deriving DecidableEq, Repr

/-- The float `amount` of the command as the command observes it: whether `amount <= 0`, and
the two conversions `send_transaction` applies to it. -/
structure CliAmount where
  nonPositive : Bool
  conversions : Amount

/-- Lines 994-998: whether the result of `create_client` ends the command. The message printed
then reads its `error`. -/
def connectFails (result : JVal) : Except PyExc Bool := do
  if (← result.sub "success").truthy then pure false
  else
    let _ ← result.sub "error"
    pure true

/-- Lines 1000-1004. -/
def loadFails (loadResult : JVal) : Except PyExc Bool := do
  if ← loadResult.contains "error" then
    let _ ← loadResult.sub "error"
    pure true
  else pure false

/-- `not address.startswith('S') or len(address) != 51`, the address check of `send` and
`utxos`. -/
def badAddress (address : String) : Bool :=
  !"S".toList.isPrefixOf address.toList || address.length != 51

/-- Lines 1006-1015: the recipient's format and the amount's sign. -/
def rejected (toAddress : String) (amount : CliAmount) : Bool :=
  badAddress toAddress || amount.nonPositive

/-- Lines 1036-1038: a result with an `error` and no `txid` ends the command. -/
def sendFails (sendResult : JVal) : Except PyExc Bool := do
  if ← sendResult.contains "error" then
    if ← sendResult.contains "txid" then pure false
    else
      let _ ← sendResult.sub "error"
      pure true
  else pure false

/-- `send` (lines 985-1068), with `started` what `load_wasm` returned and `confirmed` the
answer to `click.confirm`: how it ends and the requests the bridge received. The lines after
`send_transaction` print keys that every result with a `txid` holds. -/
def send (started : Bool) (w : World) (toAddress : String) (amount : CliAmount)
    (wallet : String) (token : Option String) (node : String) (confirmed : Bool) :
    Except PyExc Exit × List Call :=
  if !started then (.ok .exitOne, []) else
  let (result, s, connectCalls) := (Op.createClient node).run w ⟨none, none⟩
  match result >>= connectFails with
  | .error e => (.error e, connectCalls)
  | .ok true => (.ok .exitOne, connectCalls)
  | .ok false =>
    let (loadResult, s, loadCalls) := (Op.loadWallet wallet).run w s
    let calls := connectCalls ++ loadCalls
    match loadResult >>= loadFails with
    | .error e => (.error e, calls)
    | .ok true => (.ok .exitOne, calls)
    | .ok false =>
      if rejected toAddress amount then (.ok .exitOne, calls) else
      match loadResult >>= (·.sub "address") with
      | .error e => (.error e, calls)
      | .ok _ =>
        if !confirmed then (.ok .returns, calls) else
        let (sendResult, _, sendCalls) :=
          (Op.sendTransaction toAddress amount.conversions token).run w s
        match sendResult >>= sendFails with
        | .error e => (.error e, calls ++ sendCalls)
        | .ok true => (.ok .exitOne, calls ++ sendCalls)
        | .ok false => (.ok .returns, calls ++ sendCalls)

theorem sendFails_error (v : JVal) : sendFails (.dict [("error", v)]) = .ok true := rfl

theorem sendFails_errorObject (msg : String) : sendFails (errorObject msg) = .ok true :=
  sendFails_error _

theorem broadcast_of_sendFails {w : World} {s : Session} {toAddress : String} {amount : Amount}
    {tokenId : Option String} {r : JVal}
    (answered : (exec (sendTransaction w s toAddress amount tokenId)).1 = .ok r)
    (kept : sendFails r = .ok false) :
    ∃ signed, request "broadcast_transaction" signed ∈
      (exec (sendTransaction w s toAddress amount tokenId)).2 := by
  have failed : ∀ v, r = .dict [("error", v)] → False := fun v h => by
    rw [h, sendFails_error] at kept; cases kept
  unfold sendTransaction exec at *
  rcases hc : s.currentClient with _ | url
  · simp only [hc] at answered
    exact (failed _ (Except.ok.inj answered).symm).elim
  rcases hw : s.currentWallet with _ | wallet
  · simp only [hc, hw] at answered
    exact (failed _ (Except.ok.inj answered).symm).elim
  simp only [hw, run_tryCatch, sendBody, getAddressUtxos, hc, run_bind, run_lift, run_callWasm]
    at answered ⊢
  rcases hs : wallet.address.slice 0 20 with e | _
  · simp [hs] at answered
    exact (failed _ answered.symm).elim
  rcases hr : utxoReport wallet.address (replyJson (w.reply (request "get_utxos" .none))) with
    e | report
  · simp [hs, hr] at answered
    exact (failed _ answered.symm).elim
  rcases hp : planSpend w.clock wallet.address toAddress amount (givenToken tokenId) report with
    e | early | plan
  · simp [hs, hr, hp] at answered
    exact (failed _ answered.symm).elim
  · simp [hs, hr, hp] at answered
    obtain ⟨msg, rfl⟩ := planSpend_inl hp
    exact (failed _ answered.symm).elim
  simp only [hs, hr, hp, submitPlan, signTransaction, hw, run_bind, run_callWasm, run_lift]
    at answered ⊢
  rcases hsig : signedTx wallet (replyJson (w.reply (request "sign_transaction" plan.data))) with
    e | signed
  · simp [hsig] at answered
    exact (failed _ answered.symm).elim
  rcases hce : signed.contains "error" with e | _ | _
  · simp [hsig, hce] at answered
    exact (failed _ answered.symm).elim
  · rcases hid : signed.sub "txid" with e | txid
    · simp [hsig, hce, hid] at answered
      exact (failed _ answered.symm).elim
    rcases hsl : txid.slice 0 16 with e | _
    · simp [hsig, hce, hid, hsl] at answered
      exact (failed _ answered.symm).elim
    refine ⟨signed, ?_⟩
    rcases hb : broadcastOutcome wallet.address toAddress (givenToken tokenId) plan.change signed
      (replyJson (w.reply (request "broadcast_transaction" signed))) with _ | _ <;>
      simp [hsig, hce, hid, hsl, hb]
  · simp [hsig, hce] at answered
    obtain ⟨v, rfl⟩ := signedTx_error hsig hce
    exact (failed v answered.symm).elim

/-- Everything the command can do: it stops before `send_transaction`, sending at most the
requests of `create_client` and `load_wallet` and returning normally only when the user
declined; or every check passed and it ends as the result of `send_transaction` says. -/
theorem send_cases (started : Bool) (w : World) (toAddress : String) (amount : CliAmount)
    (wallet : String) (token : Option String) (node : String) (confirmed : Bool) :
    ((send started w toAddress amount wallet token node confirmed).2 ⊆
        (exec (createClient w node)).2 ++ (exec (loadWallet w wallet)).2 ∧
      ((send started w toAddress amount wallet token node confirmed).1 = .ok .returns →
        confirmed = false)) ∨
    (started = true ∧ confirmed = true ∧ rejected toAddress amount = false ∧
      (∃ result, (exec (createClient w node)).1 = .ok result ∧ connectFails result = .ok false) ∧
      ∃ loadResult loaded, (exec (loadWallet w wallet)).1 = .ok (loadResult, some loaded) ∧
        loadFails loadResult = .ok false ∧
        send started w toAddress amount wallet token node confirmed =
          (match (exec (sendTransaction w ⟨some node, some loaded⟩ toAddress amount.conversions
              token)).1 >>= sendFails with
            | .error e => .error e
            | .ok true => .ok .exitOne
            | .ok false => .ok .returns,
            (exec (createClient w node)).2 ++ (exec (loadWallet w wallet)).2 ++
              (exec (sendTransaction w ⟨some node, some loaded⟩ toAddress amount.conversions
                token)).2)) := by
  unfold send
  cases started
  · exact .inl ⟨List.nil_subset _, by simp⟩
  simp only [Bool.not_true, Bool.false_eq_true, if_false, Op.run]
  rcases hc : exec (createClient w node) with ⟨_ | result, connectCalls⟩
  · exact .inl ⟨List.subset_append_left _ _, by simp⟩
  rcases hf : connectFails result with e | _ | _ <;> simp only [ok_bind, hf]
  · exact .inl ⟨List.subset_append_left _ _, by simp⟩
  · rcases hl : exec (loadWallet w wallet) with ⟨_ | ⟨loadResult, _ | loaded⟩, loadCalls⟩ <;>
      simp only [hl, error_bind, ok_bind]
    · exact .inl ⟨List.Subset.refl _, by simp⟩
    · have unloaded : exec (sendTransaction w ⟨some node, none⟩ toAddress amount.conversions token) =
          (.ok (errorObject "No wallet loaded"), []) := rfl
      refine .inl ?_
      simp only [Op.run, reading, unloaded, ok_bind, sendFails_errorObject, List.append_nil]
      repeat' split
      all_goals simp_all
    · rcases hlf : loadFails loadResult with e | _ | _ <;> simp only [hlf]
      · exact .inl ⟨List.Subset.refl _, by simp⟩
      · by_cases rej : rejected toAddress amount
        · simp only [rej, if_true]
          exact .inl ⟨List.Subset.refl _, by simp⟩
        simp only [rej, Bool.false_eq_true, if_false]
        rcases ha : loadResult.sub "address" with e | _ <;> simp only [ha]
        · exact .inl ⟨List.Subset.refl _, by simp⟩
        cases confirmed
        · exact .inl ⟨List.Subset.refl _, fun _ => rfl⟩
        simp only [Bool.not_true, Bool.false_eq_true, if_false, Op.run, reading]
        refine .inr ⟨trivial, trivial, trivial, ⟨result, rfl, hf⟩, loadResult, loaded, rfl, hlf, ?_⟩
        rcases (exec (sendTransaction w ⟨some node, some loaded⟩ toAddress amount.conversions
          token)).1 >>= sendFails with e | _ | _ <;> rfl
      · exact .inl ⟨List.Subset.refl _, by simp⟩
  · exact .inl ⟨List.subset_append_left _ _, by simp⟩

theorem connect_load_endpoints (w : World) (node wallet : String) :
    ∀ c ∈ (exec (createClient w node)).2 ++ (exec (loadWallet w wallet)).2,
      c.endpoint = "create_client" ∨ c.endpoint = "test_connection" ∨
        c.endpoint = "load_wallet" := by
  intro c hc
  rw [loadWallet_calls, List.mem_append, List.mem_singleton] at hc
  rcases hc with hc | rfl
  · rcases createClient_calls w node with log | log <;>
      simp only [log, List.mem_cons, List.mem_singleton, List.not_mem_nil, or_false] at hc <;>
      rcases hc with rfl | rfl <;> simp [request]
  · simp [request]

/-- A bridge that connects, loads the wallet `main` at `S1`, answers the lookup with one UTXO
of 3 SHADOW (passed over for the mock ones), signs anything, and accepts the broadcast. -/
def cliBridge : World :=
  signingBridge oneUtxo (.dict [("name", .str "main"), ("address", .str "S1")])

def oneShadowArg : CliAmount := ⟨false, oneShadow⟩

/-- A well-formed recipient: `S` and 50 hex digits. -/
def recipient : String := "S427a724d41e3a5a03d1f83553134239813272bc2c4b2d50737"

/-- The `send` command asks the bridge to sign or to broadcast only after the bridge started,
the connection test passed, the wallet loaded, the recipient and the amount passed their
checks and the user confirmed. What it asks to sign is the transaction planned for the
wallet it loaded. -/
theorem send_signs_only_after_checks {started : Bool} {w : World} {toAddress : String}
    {amount : CliAmount} {wallet : String} {token : Option String} {node : String}
    {confirmed : Bool} {c : Call}
    (sent : c ∈ (send started w toAddress amount wallet token node confirmed).2)
    (signs : c.endpoint = "sign_transaction" ∨ c.endpoint = "broadcast_transaction") :
    started = true ∧ confirmed = true ∧ "S".toList.isPrefixOf toAddress.toList = true ∧
      toAddress.length = 51 ∧ amount.nonPositive = false ∧
      (∃ result, (exec (createClient w node)).1 = .ok result ∧ connectFails result = .ok false) ∧
      ∃ loadResult loaded, (exec (loadWallet w wallet)).1 = .ok (loadResult, some loaded) ∧
        loadFails loadResult = .ok false ∧
        (c.endpoint = "sign_transaction" → ∃ plan,
          spendPlanOf w loaded toAddress amount.conversions token = .ok (.inr plan) ∧
          c = request "sign_transaction" plan.data) := by
  have early : c ∉ (exec (createClient w node)).2 ++ (exec (loadWallet w wallet)).2 := fun hc => by
    rcases connect_load_endpoints w node wallet c hc with h | h | h <;>
      rcases signs with s | s <;> rw [h] at s <;> exact absurd s (by decide)
  rcases send_cases started w toAddress amount wallet token node confirmed with
    ⟨sub, -⟩ | ⟨rfl, rfl, rej, connected, loadResult, loaded, hl, hlf, run⟩
  · exact absurd (sub sent) early
  rw [run, List.mem_append] at sent
  rcases sent with sent | sent
  · exact absurd sent early
  simp only [rejected, badAddress, Bool.or_eq_false_iff, Bool.not_eq_false', bne_eq_false_iff_eq] at rej
  refine ⟨rfl, rfl, rej.1.1, rej.1.2, rej.2, connected, loadResult, loaded, hl, hlf, fun sign => ?_⟩
  obtain ⟨_, plan, ⟨⟩, planned, rfl⟩ := sendTransaction_signCall sent sign
  exact ⟨plan, planned, rfl⟩

set_option exponentiation.threshold 1100 in
theorem send_signs_only_after_checks_cliBridge :
    ∃ c ∈ (send true cliBridge recipient oneShadowArg "main" none "http://127.0.0.1:8080" true).2,
      c.endpoint = "sign_transaction" ∧
      (true = true ∧ true = true ∧ "S".toList.isPrefixOf recipient.toList = true ∧ recipient.length = 51 ∧
        oneShadowArg.nonPositive = false ∧
        (∃ result, (exec (createClient cliBridge "http://127.0.0.1:8080")).1 = .ok result ∧
          connectFails result = .ok false) ∧
        ∃ loadResult loaded, (exec (loadWallet cliBridge "main")).1 = .ok (loadResult, some loaded) ∧
          loadFails loadResult = .ok false ∧
          (c.endpoint = "sign_transaction" → ∃ plan,
            spendPlanOf cliBridge loaded recipient oneShadowArg.conversions none = .ok (.inr plan) ∧
            c = request "sign_transaction" plan.data)) :=
  ⟨_, List.get_mem _ 4 (by decide), by decide,
    send_signs_only_after_checks (List.get_mem _ 4 (by decide)) (.inl (by decide))⟩

/-- Once the user confirms, the command returns normally only after it sent the broadcast
request: every answer `send_transaction` can give before broadcasting ends the command with
status 1. -/
theorem send_returns_after_broadcast {started : Bool} {w : World} {toAddress : String}
    {amount : CliAmount} {wallet : String} {token : Option String} {node : String}
    (returned : (send started w toAddress amount wallet token node true).1 = .ok .returns) :
    ∃ signed, request "broadcast_transaction" signed ∈
      (send started w toAddress amount wallet token node true).2 := by
  rcases send_cases started w toAddress amount wallet token node true with
    ⟨-, declined⟩ | ⟨-, -, -, -, loadResult, loaded, -, -, run⟩
  · cases declined returned
  rw [run] at returned ⊢
  rcases hr : (exec (sendTransaction w ⟨some node, some loaded⟩ toAddress amount.conversions
    token)).1 with e | r
  · simp [hr] at returned
  rcases hf : sendFails r with e | _ | _ <;> simp [hr, hf] at returned
  obtain ⟨signed, sent⟩ := broadcast_of_sendFails hr hf
  exact ⟨signed, List.mem_append_right _ sent⟩

set_option exponentiation.threshold 1100 in
theorem send_returns_after_broadcast_cliBridge :
    (send true cliBridge recipient oneShadowArg "main" none "http://127.0.0.1:8080" true).1 = .ok .returns ∧
    ∃ signed, request "broadcast_transaction" signed ∈
      (send true cliBridge recipient oneShadowArg "main" none "http://127.0.0.1:8080" true).2 :=
  ⟨by decide, send_returns_after_broadcast (by decide)⟩

end Shadowy.ShadowyCli
