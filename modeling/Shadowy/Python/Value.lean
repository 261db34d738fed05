import Mathlib

/-! Decoded JSON as `json.loads` hands it to the scanners and the wallet, and the Python
operations they apply to it: `dict.get`, `[]`, `in`, iteration, truthiness, `int()` and
`int + x`. JSON numbers are Python ints; floats are outside the model. Exceptions carry
the text `str(e)` would give. The library functions (`base64.b64decode`, `json.loads`,
`int(str)`) are a parameter, so every result here holds whatever they return. -/

namespace Shadowy

instance instDecidableEqExcept [DecidableEq ε] [DecidableEq α] : DecidableEq (Except ε α)
  | .ok a, .ok b => decidable_of_iff (a = b) (by simp)
  | .error a, .error b => decidable_of_iff (a = b) (by simp)
  | .ok _, .error _ => isFalse Except.noConfusion
  | .error _, .ok _ => isFalse Except.noConfusion

@[simp] theorem ok_bind (a : α) (f : α → Except ε β) : (Except.ok a >>= f) = f a := rfl
@[simp] theorem error_bind (e : ε) (f : α → Except ε β) :
    (Except.error e >>= f) = Except.error e := rfl

theorem bind_eq_ok {x : Except ε α} {f : α → Except ε β} {b : β} :
    x >>= f = .ok b ↔ ∃ a, x = .ok a ∧ f a = .ok b := by
  cases x <;> simp

theorem forall₂_of_mapM_ok {f : α → Except ε β} :
    ∀ {xs : List α} {ys : List β}, xs.mapM f = .ok ys → List.Forall₂ (fun x y => f x = .ok y) xs ys
  | [], _, mapped => by
    cases mapped
    exact .nil
  | x :: xs, _, mapped => by
    rw [List.mapM_cons] at mapped
    obtain ⟨y, hy, mapped⟩ := bind_eq_ok.mp mapped
    obtain ⟨ys, hys, mapped⟩ := bind_eq_ok.mp mapped
    cases mapped
    exact .cons hy (forall₂_of_mapM_ok hys)

theorem exists_of_forall₂ {R : α → β → Prop} {xs : List α} {ys : List β}
    (related : List.Forall₂ R xs ys) : ∀ y ∈ ys, ∃ x ∈ xs, R x y := by
  induction related with
  | nil => simp
  | cons r _ ih =>
    simp only [List.mem_cons, forall_eq_or_imp, exists_eq_or_imp]
    exact ⟨.inl r, fun y hy => (ih y hy).elim fun x hx => .inr ⟨x, hx⟩⟩

theorem mapM_ok_mem {f : α → Except ε β} {xs : List α} {ys : List β}
    (mapped : xs.mapM f = .ok ys) : ∀ y ∈ ys, ∃ x ∈ xs, f x = .ok y :=
  exists_of_forall₂ (forall₂_of_mapM_ok mapped)

inductive JVal where
  | none
  | bool (b : Bool)
  | int (n : Int)
  | str (s : String)
  | list (items : List JVal)
  | dict (items : List (String × JVal))
  deriving Repr, Inhabited

inductive PyExc where
  | keyError (key : String)
  | typeError (msg : String)
  | attributeError (msg : String)
  | valueError (msg : String)
  | overflowError (msg : String)
  | requestException (msg : String)
  | exception (msg : String)
  deriving DecidableEq, Repr

namespace PyExc

/-- `str(e)`: a `KeyError` quotes its key, every other exception shows its message. -/
def str : PyExc → String
  | keyError key => "'" ++ key ++ "'"
  | typeError msg | attributeError msg | valueError msg | overflowError msg
  | requestException msg | exception msg => msg

end PyExc

namespace JVal

def typeName : JVal → String
  | none => "NoneType"
  | bool _ => "bool"
  | int _ => "int"
  | str _ => "str"
  | list _ => "list"
  | dict _ => "dict"

/-- Python `v == s` for a string `s`: only a string with the same text is equal. -/
def isStr : JVal → String → Bool
  | str s, t => s == t
  | _, _ => false

/-- `v.get(key, default)`; only a dict has `get`. -/
def get (v : JVal) (key : String) (default : JVal) : Except PyExc JVal :=
  match v with
  | dict items => .ok ((items.lookup key).getD default)
  | v => .error (.attributeError ("'" ++ v.typeName ++ "' object has no attribute 'get'"))

/-- `v[key]` for a string key. -/
def sub (v : JVal) (key : String) : Except PyExc JVal :=
  match v with
  | dict items =>
    match items.lookup key with
    | some x => .ok x
    | Option.none => .error (.keyError key)
  | list _ => .error (.typeError "list indices must be integers or slices, not str")
  | str _ => .error (.typeError "string indices must be integers, not 'str'")
  | v => .error (.typeError ("'" ++ v.typeName ++ "' object is not subscriptable"))

/-- `key in v`: a key of a dict, an element of a list equal to `key`, or a substring. -/
def contains (v : JVal) (key : String) : Except PyExc Bool :=
  match v with
  | dict items => .ok (items.lookup key).isSome
  | list items => .ok (items.any (·.isStr key))
  | str s => .ok (decide (key.toList <:+: s.toList))
  | v => .error (.typeError ("argument of type '" ++ v.typeName ++ "' is not iterable"))

/-- What `for x in v` runs over: list items, dict keys, or one-character strings. -/
def iter : JVal → Except PyExc (List JVal)
  | list items => .ok items
  | dict items => .ok (items.map fun kv => str kv.1)
  | str s => .ok (s.toList.map fun c => str (String.singleton c))
  | v => .error (.typeError ("'" ++ v.typeName ++ "' object is not iterable"))

/-- Python truthiness, as `if not v` tests it. -/
def truthy : JVal → Bool
  | none => false
  | bool b => b
  | int n => n != 0
  | str s => s != ""
  | list items => !items.isEmpty
  | dict items => !items.isEmpty

mutual
/-- Structural equality of decoded values, as Python's `==` on them. -/
def beq : JVal → JVal → Bool
  | none, none => true
  | bool a, bool b => a == b
  | int a, int b => a == b
  | str a, str b => a == b
  | list a, list b => beqList a b
  | dict a, dict b => beqDict a b
  | _, _ => false
def beqList : List JVal → List JVal → Bool
  | [], [] => true
  | a :: as, b :: bs => beq a b && beqList as bs
  | _, _ => false
def beqDict : List (String × JVal) → List (String × JVal) → Bool
  | [], [] => true
  | (k, a) :: as, (l, b) :: bs => k == l && beq a b && beqDict as bs
  | _, _ => false
end

mutual
theorem beq_iff : (a b : JVal) → beq a b = true ↔ a = b
  | none, b | bool _, b | int _, b | str _, b => by
    cases b <;> first
      | exact ⟨fun _ => rfl, fun _ => rfl⟩
      | exact beq_iff_eq.trans (by simp)
      | exact ⟨nofun, nofun⟩
  | list xs, b => by
    cases b with
    | list ys => exact (beqList_iff xs ys).trans (by simp)
    | _ => exact ⟨nofun, nofun⟩
  | dict xs, b => by
    cases b with
    | dict ys => exact (beqDict_iff xs ys).trans (by simp)
    | _ => exact ⟨nofun, nofun⟩
theorem beqList_iff : (xs ys : List JVal) → beqList xs ys = true ↔ xs = ys
  | [], [] => ⟨fun _ => rfl, fun _ => rfl⟩
  | [], _ :: _ | _ :: _, [] => ⟨nofun, nofun⟩
  | x :: xs, y :: ys => by
    show (beq x y && beqList xs ys) = true ↔ _
    simp only [Bool.and_eq_true, beq_iff x y, beqList_iff xs ys, List.cons.injEq]
theorem beqDict_iff : (xs ys : List (String × JVal)) → beqDict xs ys = true ↔ xs = ys
  | [], [] => ⟨fun _ => rfl, fun _ => rfl⟩
  | [], _ :: _ | _ :: _, [] => ⟨nofun, nofun⟩
  | (k, x) :: xs, (l, y) :: ys => by
    show (k == l && beq x y && beqDict xs ys) = true ↔ _
    simp only [Bool.and_eq_true, beq_iff x y, beqDict_iff xs ys, List.cons.injEq,
      Prod.mk.injEq, beq_iff_eq]
end

instance : DecidableEq JVal := fun a b => decidable_of_iff _ (beq_iff a b)

/-- `v[start:stop]` with non-negative bounds: strings and lists slice, a dict rejects the
slice as a key, everything else is not subscriptable. -/
def slice (v : JVal) (start stop : Nat) : Except PyExc JVal :=
  match v with
  | str s => .ok (str (String.mk ((s.toList.drop start).take (stop - start))))
  | list items => .ok (list ((items.drop start).take (stop - start)))
  | dict _ => .error (.typeError "unhashable type: 'slice'")
  | v => .error (.typeError ("'" ++ v.typeName ++ "' object is not subscriptable"))

/-- `len(v)`. -/
def len : JVal → Except PyExc Nat
  | str s => .ok s.length
  | list items => .ok items.length
  | dict items => .ok items.length
  | v => .error (.typeError ("object of type '" ++ v.typeName ++ "' has no len()"))

/-- Two lower-case hex digits, as in a `\\xNN` escape. -/
def hexByte (n : Nat) : String :=
  let digits := Nat.toDigits 16 n
  String.mk (List.replicate (2 - digits.length) '0' ++ digits)

/-- One character of a string's `repr` quoted with `quote`. Characters outside ASCII are
taken as printable. -/
def escapeChar (quote c : Char) : String :=
  if c = quote ∨ c = '\\' then String.mk ['\\', c]
  else if c = '\t' then "\\t"
  else if c = '\n' then "\\n"
  else if c = '\r' then "\\r"
  else if c.toNat < 32 ∨ (127 ≤ c.toNat ∧ c.toNat ≤ 160) ∨ c.toNat = 173 then
    "\\x" ++ hexByte c.toNat
  else c.toString

/-- `repr(s)` for a string: single quotes unless the text has one and no double quote. -/
def reprStr (s : String) : String :=
  let quote := if s.toList.elem (Char.ofNat 39) && !s.toList.elem (Char.ofNat 34) then Char.ofNat 34
    else Char.ofNat 39
  quote.toString ++ String.join (s.toList.map (escapeChar quote)) ++ quote.toString

mutual
/-- `repr(v)`, which `str` applies to the items of a container. -/
def repr : JVal → String
  | none => "None"
  | bool b => if b then "True" else "False"
  | int n => toString n
  | str s => reprStr s
  | list items => "[" ++ reprList items ++ "]"
  | dict items => "\x7b" ++ reprDict items ++ "\x7d"
def reprList : List JVal → String
  | [] => ""
  | [x] => repr x
  | x :: xs => repr x ++ ", " ++ reprList xs
def reprDict : List (String × JVal) → String
  | [] => ""
  | [(k, x)] => reprStr k ++ ": " ++ repr x
  | (k, x) :: xs => reprStr k ++ ": " ++ repr x ++ ", " ++ reprDict xs
end

/-- `str(v)`, what an f-string inserts for `v`. -/
def pyStr : JVal → String
  | str s => s
  | v => repr v

example : (dict [("k", list [str "it's", none, bool true])]).pyStr =
    "\x7b'k': [\"it's\", None, True]\x7d" := by decide

@[simp] theorem get_dict (items : List (String × JVal)) (key : String) (default : JVal) :
    (dict items).get key default = .ok ((items.lookup key).getD default) := rfl

@[simp] theorem isStr_str (s t : String) : (str s).isStr t = (s == t) := rfl

@[simp] theorem iter_list (items : List JVal) : (list items).iter = .ok items := rfl

end JVal

/-- `int(v)` for a decoded JSON value; strings go to the runtime's parser. -/
def pyInt (intOfStr : String → Except PyExc Int) : JVal → Except PyExc Int
  | .int n => .ok n
  | .bool b => .ok (if b then 1 else 0)
  | .str s => intOfStr s
  | v => .error (.typeError ("int() argument must be a string, a bytes-like object or a " ++
      "real number, not '" ++ v.typeName ++ "'"))

/-- `a op v` for an int `a` and `op` one of `+` and `+=`: ints and bools add, anything else
is a `TypeError` naming the operator. -/
def intAdd (op : String) (a : Int) : JVal → Except PyExc Int
  | .int n => .ok (a + n)
  | .bool b => .ok (a + if b then 1 else 0)
  | v => .error (.typeError ("unsupported operand type(s) for " ++ op ++ ": 'int' and '" ++
      v.typeName ++ "'"))

/-- `a += v`. -/
def addInt (a : Int) : JVal → Except PyExc Int := intAdd "+=" a

/-- CPython's `a / b` on ints rounds the exact quotient to a double and raises
`OverflowError` when that rounds to 2^1024 or beyond, i.e. when |a / b| ≥ 2^1024 - 2^970. -/
def trueDivOverflows (a : Int) (b : Nat) : Bool :=
  (2 ^ 1024 - 2 ^ 970) * b ≤ a.natAbs

/-- Whether `a / b` raises; the float it returns is only ever printed, so it is not kept. -/
def trueDiv (a : Int) (b : Nat) : Except PyExc Unit :=
  if trueDivOverflows a b then .error (.overflowError "integer division result too large for a float")
  else .ok ()

/-- `float(n)`, which `n / 100000000.0` runs first: `n` rounds to 2^1024 or beyond, and
raises, when it is as large as the quotient bound with `b = 1`. -/
def intToFloat (n : Int) : Except PyExc Unit :=
  if trueDivOverflows n 1 then .error (.overflowError "int too large to convert to float")
  else .ok ()

/-- The library functions the code calls on data it received. -/
structure Runtime where
  b64decode : String → Except PyExc (List UInt8)
  loads : List UInt8 → Except PyExc JVal
  intOfStr : String → Except PyExc Int

namespace Runtime

/-- `json.loads(base64.b64decode(v))`; `b64decode` takes only a string. -/
def loadsB64 (rt : Runtime) : JVal → Except PyExc JVal
  | .str s => rt.b64decode s >>= rt.loads
  | v => .error (.typeError ("argument should be a bytes-like object or ASCII string, not '" ++
      v.typeName ++ "'"))

end Runtime

end Shadowy
