import Shadowy.Python.Value

/-! The locals of the balance scan and the shape of its loops. A Python `for` whose body
may raise leaves the loop with the locals as the raising statement left them; nothing is
rolled back. A body `shifts` when starting from `t` ends at `t` plus what it adds from zero,
with the same exception: that is what lets one block's effect be read off alone. -/

namespace Shadowy

/-- `balance` and `mining_rewards` of `calculate_balance`. -/
structure Tally where
  balance : Int
  miningRewards : Nat
  deriving DecidableEq, Repr

namespace Tally

instance : Zero Tally := ⟨⟨0, 0⟩⟩

instance : Add Tally := ⟨fun a b => ⟨a.balance + b.balance, a.miningRewards + b.miningRewards⟩⟩

@[simp] theorem mk_zero : (⟨0, 0⟩ : Tally) = 0 := rfl
@[simp] theorem zero_balance : (0 : Tally).balance = 0 := rfl
@[simp] theorem zero_miningRewards : (0 : Tally).miningRewards = 0 := rfl
@[simp] theorem add_balance (a b : Tally) : (a + b).balance = a.balance + b.balance := rfl
@[simp] theorem add_miningRewards (a b : Tally) :
    (a + b).miningRewards = a.miningRewards + b.miningRewards := rfl

@[ext] theorem ext {a b : Tally} (hb : a.balance = b.balance)
    (hm : a.miningRewards = b.miningRewards) : a = b := by
  cases a; cases b; simp_all

instance : AddCommMonoid Tally where
  add_assoc a b c := by ext <;> simp [add_assoc]
  zero_add a := by ext <;> simp
  add_zero a := by ext <;> simp
  add_comm a b := by ext <;> simp [add_comm]
  nsmul := nsmulRec

@[simp] theorem sum_balance (ts : List Tally) : ts.sum.balance = (ts.map balance).sum := by
  induction ts with
  | nil => rfl
  | cons t ts ih => simp [ih]

@[simp] theorem sum_miningRewards (ts : List Tally) :
    ts.sum.miningRewards = (ts.map miningRewards).sum := by
  induction ts with
  | nil => rfl
  | cons t ts ih => simp [ih]

end Tally

/-- A statement sequence run on the locals: where control left it, and the exception that
made it leave early. -/
abbrev Step (σ : Type) := σ → σ × Option PyExc

/-- A statement that raises before it changes anything. -/
def atomic (f : σ → Except PyExc σ) : Step σ := fun s =>
  match f s with
  | .ok s' => (s', none)
  | .error e => (s, some e)

/-- A Python `for` over `xs`: the first exception ends the loop. -/
def forLoop (body : α → Step σ) : List α → Step σ
  | [], s => (s, none)
  | x :: xs, s =>
    match body x s with
    | (s', none) => forLoop body xs s'
    | (s', some e) => (s', some e)

@[simp] theorem forLoop_nil (body : α → Step σ) (s : σ) : forLoop body [] s = (s, none) := rfl

theorem forLoop_cons_ok {body : α → Step σ} {x : α} {s s' : σ} (xs : List α)
    (ok : body x s = (s', none)) : forLoop body (x :: xs) s = forLoop body xs s' := by
  simp [forLoop, ok]

theorem forLoop_cons_raise {body : α → Step σ} {x : α} {s s' : σ} {e : PyExc} (xs : List α)
    (raise : body x s = (s', some e)) : forLoop body (x :: xs) s = (s', some e) := by
  simp [forLoop, raise]

/-- The heights loop: each body runs inside `try ... except Exception: continue`, so its
exception is dropped and what it did to the totals is kept. -/
def replay (scan : α → Step σ) (blocks : Nat → α) : List Nat → σ → σ
  | [], s => s
  | h :: hs, s => replay scan blocks hs (scan (blocks h) s).1

/-- What a step adds to zero. -/
def Step.delta (f : Step Tally) : Tally := (f 0).1

/-- The step adds the same amount and raises the same way from every start. -/
def Step.Shifts (f : Step Tally) : Prop := ∀ t, f t = (t + f.delta, (f 0).2)

theorem atomic_shifts {f : Tally → Except PyExc Tally}
    (shift : ∀ t, f t = (f 0).map (t + ·)) : (atomic f).Shifts := by
  intro t
  simp only [Step.delta, atomic, shift t]
  cases f 0 <;> simp [Except.map]

theorem forLoop_shifts {body : α → Step Tally} (shift : ∀ x, (body x).Shifts) :
    ∀ xs, (forLoop body xs).Shifts
  | [], t => by simp [Step.delta]
  | x :: xs, t => by
    rcases h : body x 0 with ⟨d, _ | e⟩
    · have ht : body x t = (t + d, none) := by rw [shift x t, Step.delta, h]
      simp only [Step.delta, forLoop, ht, h]
      rw [forLoop_shifts shift xs (t + d), forLoop_shifts shift xs d, add_assoc]
    · have ht : body x t = (t + d, some e) := by rw [shift x t, Step.delta, h]
      simp only [Step.delta, forLoop, ht, h, zero_add]

theorem forLoop_all_ok {body : α → Step Tally} (shift : ∀ x, (body x).Shifts) :
    ∀ (xs : List α), (∀ x ∈ xs, (body x 0).2 = none) →
      ∀ t, forLoop body xs t = (t + (xs.map fun x => (body x).delta).sum, none)
  | [], _, t => by simp
  | x :: xs, ok, t => by
    have hx : body x t = (t + (body x).delta, none) := by
      rw [shift x t, ok x (List.mem_cons_self x xs)]
    rw [forLoop_cons_ok xs hx, forLoop_all_ok shift xs (fun y hy => ok y (List.mem_cons_of_mem x hy))]
    simp [add_assoc]

theorem forLoop_first_raise {body : α → Step Tally} (shift : ∀ x, (body x).Shifts)
    (good : List α) (bad : α) (rest : List α) (ok : ∀ x ∈ good, (body x 0).2 = none)
    {e : PyExc} (raise : (body bad 0).2 = some e) (t : Tally) :
    forLoop body (good ++ bad :: rest) t =
      (t + (good.map fun x => (body x).delta).sum + (body bad).delta, some e) := by
  induction good generalizing t with
  | nil =>
    exact forLoop_cons_raise rest (by rw [shift bad t, raise]; simp)
  | cons x good ih =>
    have hx : body x t = (t + (body x).delta, none) := by
      rw [shift x t, ok x (List.mem_cons_self x good)]
    rw [List.cons_append, forLoop_cons_ok _ hx, ih (fun y hy => ok y (List.mem_cons_of_mem x hy))]
    simp [add_assoc]

theorem forLoop_raise_split {body : α → Step Tally} (shift : ∀ x, (body x).Shifts) :
    ∀ {xs : List α} {t : Tally} {e : PyExc}, (forLoop body xs t).2 = some e →
      ∃ good bad rest, xs = good ++ bad :: rest ∧ (∀ x ∈ good, (body x 0).2 = none) ∧
        (body bad 0).2 = some e
  | [], _, _, raised => by simp at raised
  | x :: xs, t, e, raised => by
    rcases h : (body x 0).2 with _ | e'
    · rw [forLoop_cons_ok xs (by rw [shift x t, h])] at raised
      obtain ⟨good, bad, rest, rfl, ok, fails⟩ := forLoop_raise_split shift raised
      exact ⟨x :: good, bad, rest, rfl, by simpa [h] using ok, fails⟩
    · rw [forLoop_cons_raise xs (by rw [shift x t, h])] at raised
      exact ⟨[], x, xs, rfl, by simp, h.trans raised⟩

theorem forLoop_filter {body : α → Step σ} {skip : α → Bool}
    (idle : ∀ x, skip x = true → ∀ s, body x s = (s, none)) :
    ∀ (xs : List α) (s : σ), forLoop body (xs.filter fun x => !skip x) s = forLoop body xs s
  | [], s => rfl
  | x :: xs, s => by
    by_cases hx : skip x
    · rw [forLoop_cons_ok xs (idle x hx s), ← forLoop_filter idle xs s]
      simp [List.filter_cons, hx]
    · simp only [List.filter_cons, hx, Bool.not_false, if_true, forLoop, forLoop_filter idle xs]

theorem replay_congr {f : α → Step σ} {g : β → Step σ} {a : Nat → α} {b : Nat → β} :
    ∀ {hs : List Nat}, (∀ h ∈ hs, ∀ s, (f (a h) s).1 = (g (b h) s).1) →
      ∀ s, replay f a hs s = replay g b hs s
  | [], _, s => rfl
  | h :: hs, same, s => by
    rw [replay, replay, same h (List.mem_cons_self h hs) s,
      replay_congr (fun h' hh => same h' (List.mem_cons_of_mem h hh))]

theorem replay_eq {scan : α → Step Tally} (shift : ∀ a, (scan a).Shifts) (blocks : Nat → α) :
    ∀ (hs : List Nat) (t : Tally),
      replay scan blocks hs t = t + (hs.map fun h => (scan (blocks h)).delta).sum
  | [], t => by simp [replay]
  | h :: hs, t => by
    rw [replay, replay_eq shift blocks hs, shift (blocks h) t, List.map_cons, List.sum_cons,
      add_assoc]

end Shadowy
