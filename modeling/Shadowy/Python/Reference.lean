import Shadowy.Python.Value

/-! A concrete `Runtime` for running the model on given chains: CPython's non-strict
`binascii.a2b_base64` behind `base64.b64decode`, `json.loads` on ASCII documents, and
`int(str)` in base 10. It agrees with CPython on ASCII input whose numbers are integers and
whose strings have no `\u` escapes; elsewhere it rejects what CPython would accept. -/

namespace Shadowy.Reference

def b64Value (c : Char) : Option Nat :=
  if 'A' ≤ c ∧ c ≤ 'Z' then some (c.toNat - 65)
  else if 'a' ≤ c ∧ c ≤ 'z' then some (c.toNat - 71)
  else if '0' ≤ c ∧ c ≤ '9' then some (c.toNat + 4)
  else if c = '+' then some 62
  else if c = '/' then some 63
  else none

/-- `binascii.a2b_base64` with `strict_mode=False`: characters outside the alphabet are
skipped, a pad completing a quad ends the input, a dangling quad is an error. The output
is accumulated in reverse. -/
def a2bBase64 : List Char → (quadPos leftchar pads : Nat) → List UInt8 → Except PyExc (List UInt8)
  | [], q, _, _, out =>
    if q = 0 then .ok out.reverse
    else if q = 1 then .error (.valueError ("Invalid base64-encoded string: number of data " ++
      "characters (" ++ toString (out.length / 3 * 4 + 1) ++ ") cannot be 1 more than a " ++
      "multiple of 4"))
    else .error (.valueError "Incorrect padding")
  | c :: cs, q, left, pads, out =>
    if c = '=' then
      if 2 ≤ q then
        if 4 ≤ q + (pads + 1) then .ok out.reverse else a2bBase64 cs q left (pads + 1) out
      else a2bBase64 cs q left pads out
    else
      match b64Value c, q with
      | none, _ => a2bBase64 cs q left pads out
      | some v, 0 => a2bBase64 cs 1 v 0 out
      | some v, 1 => a2bBase64 cs 2 (v % 16) 0 (UInt8.ofNat (left * 4 + v / 16) :: out)
      | some v, 2 => a2bBase64 cs 3 (v % 4) 0 (UInt8.ofNat (left * 16 + v / 4) :: out)
      | some v, _ => a2bBase64 cs 0 0 0 (UInt8.ofNat (left * 64 + v) :: out)

/-- `base64.b64decode(s)`: the text must be ASCII. -/
def b64decode (s : String) : Except PyExc (List UInt8) :=
  if s.toList.all (·.toNat < 128) then a2bBase64 s.toList 0 0 0 []
  else .error (.valueError "string argument should contain only ASCII characters")

def isJsonWs (c : Char) : Bool := c = ' ' || c = '\t' || c = '\n' || c = '\r'

def skipWs : List Char → List Char
  | c :: cs => if isJsonWs c then skipWs cs else c :: cs
  | [] => []

def digitsValue (ds : List Char) : Nat := ds.foldl (fun n d => 10 * n + (d.toNat - 48)) 0

/-- The body of a JSON string after its opening quote, up to the closing quote. -/
def parseChars : List Char → List Char → Option (String × List Char)
  | '"' :: rest, acc => some (String.mk acc.reverse, rest)
  | '\\' :: e :: rest, acc =>
    let escaped := match e with
      | '"' => some '"' | '\\' => some '\\' | '/' => some '/' | 'b' => some (Char.ofNat 8)
      | 'f' => some (Char.ofNat 12) | 'n' => some '\n' | 'r' => some '\r' | 't' => some '\t'
      | _ => none
    escaped.bind fun c => parseChars rest (c :: acc)
  | c :: rest, acc => if c.toNat < 32 || c = '\\' then none else parseChars rest (c :: acc)
  | [], _ => none

/-- An integer literal; a fraction or an exponent makes a float, which is rejected. -/
def parseInt (cs : List Char) : Option (JVal × List Char) :=
  let (neg, body) := match cs with
    | '-' :: rest => (true, rest)
    | _ => (false, cs)
  let ds := body.takeWhile Char.isDigit
  let rest := body.dropWhile Char.isDigit
  if ds.isEmpty || (ds.length > 1 && ds.head? = some '0') then none
  else match rest with
    | '.' :: _ | 'e' :: _ | 'E' :: _ => none
    | _ => some (.int (if neg then -(digitsValue ds : Int) else digitsValue ds), rest)

/-- Set a key as a Python dict does: a repeated key keeps its place and takes the new value. -/
def setKey (items : List (String × JVal)) (key : String) (v : JVal) : List (String × JVal) :=
  if (items.lookup key).isSome then items.map fun kv => if kv.1 = key then (key, v) else kv
  else items ++ [(key, v)]

def parseItems (value : List Char → Option (JVal × List Char)) :
    Nat → List Char → List JVal → Option (List JVal × List Char)
  | 0, _, _ => none
  | fuel + 1, cs, acc => do
    let (v, rest) ← value cs
    match skipWs rest with
    | ',' :: rest => parseItems value fuel rest (v :: acc)
    | ']' :: rest => some ((v :: acc).reverse, rest)
    | _ => none

def parseMembers (value : List Char → Option (JVal × List Char)) :
    Nat → List Char → List (String × JVal) → Option (List (String × JVal) × List Char)
  | 0, _, _ => none
  | fuel + 1, cs, acc => do
    let (key, rest) ← match skipWs cs with
      | '"' :: rest => parseChars rest []
      | _ => none
    let rest ← match skipWs rest with
      | ':' :: rest => some rest
      | _ => none
    let (v, rest) ← value rest
    match skipWs rest with
    | ',' :: rest => parseMembers value fuel rest (setKey acc key v)
    | '}' :: rest => some (setKey acc key v, rest)
    | _ => none

def parseValue : Nat → List Char → Option (JVal × List Char)
  | 0, _ => none
  | fuel + 1, cs =>
    match skipWs cs with
    | '{' :: rest =>
      match skipWs rest with
      | '}' :: rest => some (.dict [], rest)
      | _ => (parseMembers (parseValue fuel) rest.length rest []).map fun (m, r) => (.dict m, r)
    | '[' :: rest =>
      match skipWs rest with
      | ']' :: rest => some (.list [], rest)
      | _ => (parseItems (parseValue fuel) rest.length rest []).map fun (m, r) => (.list m, r)
    | '"' :: rest => (parseChars rest []).map fun (s, r) => (.str s, r)
    | 'n' :: 'u' :: 'l' :: 'l' :: rest => some (.none, rest)
    | 't' :: 'r' :: 'u' :: 'e' :: rest => some (.bool true, rest)
    | 'f' :: 'a' :: 'l' :: 's' :: 'e' :: rest => some (.bool false, rest)
    | rest => parseInt rest

/-- `json.loads(b)` on ASCII bytes, with nothing but whitespace after the value. -/
def loads (bytes : List UInt8) : Except PyExc JVal :=
  if bytes.all (·.toNat < 128) then
    let cs := bytes.map fun b => Char.ofNat b.toNat
    match parseValue (cs.length + 1) cs with
    | some (v, rest) => if (skipWs rest).isEmpty then .ok v else .error (.valueError "Extra data")
    | none => .error (.valueError "Expecting value")
  else .error (.valueError "non-ASCII document")

def isPyWs (c : Char) : Bool :=
  c = ' ' || (9 ≤ c.toNat && c.toNat ≤ 13) || (28 ≤ c.toNat && c.toNat ≤ 31)

/-- `int(s)`: optional sign, decimal digits with single underscores between them. -/
def intOfStr (s : String) : Except PyExc Int :=
  let cs := ((s.toList.dropWhile isPyWs).reverse.dropWhile isPyWs).reverse
  let (neg, body) := match cs with
    | '-' :: rest => (true, rest)
    | '+' :: rest => (false, rest)
    | _ => (false, cs)
  let ok := !body.isEmpty && body.head? ≠ some '_' && body.getLast? ≠ some '_' &&
    body.all (fun c => c.isDigit || c = '_') && !((body.zip body.tail).any fun p => p.1 = '_' && p.2 = '_')
  if ok then
    let n : Int := digitsValue (body.filter Char.isDigit)
    .ok (if neg then -n else n)
  else .error (.valueError ("invalid literal for int() with base 10: '" ++ s ++ "'"))

def runtime : Runtime := ⟨b64decode, loads, intOfStr⟩

end Shadowy.Reference
