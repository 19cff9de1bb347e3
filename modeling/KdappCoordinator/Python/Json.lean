import Mathlib.Data.List.Infix

/-!
# JSON values as the coordinator sees them

`json.loads` hands `tictactoe_coordinator.py` Python objects: `None`, `bool`, `int`,
`float`, `str`, `list` and `dict`. `JsonValue` is that fragment of Python's object model,
and this module gives the operations the coordinator applies to such objects: truthiness
(`if not result`), `isinstance(x, dict)`, `d.get(k)`, the `in` operator and subscription.
Each operation raises the exception Python raises on an argument of the wrong type, so
that the coordinator's error paths can be followed on every value the engine may send.

A JSON object with a repeated key becomes a Python dict holding the last value given for
it; `dictGet` reads the entries that way. A Python `str` is a sequence of code points, and
can hold a lone surrogate, which `json.loads` makes of an unpaired `\ud800` escape: `PyStr`
keeps one as a `PyChar` of its own.
-/

namespace KdappCoordinator

/-- A Python `float` produced by `json.loads`: a decimal `mantissa * 10 ^ exponent`, or one
    of the non-finite values the parser accepts (`NaN`, `Infinity`, `-Infinity`). -/
inductive PyFloat where
  | finite (mantissa exponent : Int)
  | nan
  | infinity (negative : Bool)
  deriving DecidableEq, Repr

/-- A character of a Python `str`: a Unicode scalar value, or a lone surrogate, a code point of
    `U+D800`-`U+DFFF`, which a `str` can hold and a Lean `Char` cannot. -/
inductive PyChar where
  | char (c : Char)
  /-- The code point `U+D800 + offset`. -/
  | surrogate (offset : Fin 0x800)
  deriving DecidableEq, Repr

/-- The code point of a character. -/
def PyChar.toNat : PyChar → Nat
  | .char c => c.toNat
  | .surrogate k => 0xD800 + k.val

/-- The character of a code point below `0x110000`. -/
def PyChar.ofNat (n : Nat) : PyChar :=
  if h : 0xD800 ≤ n ∧ n < 0xE000 then .surrogate ⟨n - 0xD800, by omega⟩ else .char (Char.ofNat n)

/-- A Python `str`: its code points in order. -/
abbrev PyStr := List PyChar

/-- The `str` of a Lean string, which holds no surrogate. -/
def PyStr.ofString (s : String) : PyStr := s.data.map .char

instance : Coe String PyStr := ⟨PyStr.ofString⟩

/-- The error handler of the coordinator's stdout, which encodes what `print` writes to UTF-8:
    `strict` under a UTF-8 locale, `surrogateescape` under the C or POSIX locale. -/
inductive StdoutErrors where
  | strict
  | surrogateEscape
  deriving DecidableEq, Repr

/-- The characters stdout can encode: every scalar value, and under `surrogateescape` the
    surrogates `U+DC80`-`U+DCFF`, which stand for undecodable bytes. -/
def StdoutErrors.encodes : StdoutErrors → PyChar → Bool
  | _, .char _ => true
  | .strict, .surrogate _ => false
  | .surrogateEscape, .surrogate k => 0x480 ≤ k.val && k.val ≤ 0x4ff

/-- The Python objects `json.loads` builds. -/
inductive JsonValue where
  | null
  | bool (b : Bool)
  | int (i : Int)
  | float (f : PyFloat)
  | str (s : PyStr)
  | list (xs : List JsonValue)
  | dict (entries : List (PyStr × JsonValue))
  deriving Repr, Inhabited

/-- The exceptions the modelled code raises or catches. -/
inductive PyExc where
  /-- `send_mcp_request` without a JSON line before its deadline (`:556`). -/
  | timeoutError
  /-- `__init__` without a readiness line before its deadline (`:66`). -/
  | runtimeError
  | typeError
  | attributeError
  | keyError
  | indexError
  | valueError
  | overflowError
  /-- Raised by `requests.post` when the agent cannot be reached or does not answer. -/
  | connectionError
  /-- `json.JSONDecodeError`, raised by `json.loads`. -/
  | decodeError
  /-- Raised by `json.loads` and `json.dumps` on nesting deeper than the recursion limit
      lets them go. -/
  | recursionError
  /-- A write to the engine's stdin after the engine exited. -/
  | brokenPipeError
  /-- `readline()` on output of the engine that is not UTF-8 (`encoding='utf-8'`, `:21`). -/
  | unicodeDecodeError
  /-- `print` of a line holding a lone surrogate that stdout's error handler cannot encode. -/
  | unicodeEncodeError
  /-- Not an exception: the process waits forever in a read from an engine that runs on and
      prints nothing more. No `except` clause catches it, and, like an exception, it ends the
      run without a result. -/
  | blocked
  deriving DecidableEq, Repr

/-- What `except Exception` catches: every exception, not a read that never returns. -/
def PyExc.isException : PyExc → Bool
  | .blocked => false
  | _ => true

/-- The value of a key in a dict's entries: the last one given, as in the dict `json.loads`
    builds. -/
def dictGet (entries : List (PyStr × JsonValue)) (key : PyStr) : Option JsonValue :=
  entries.foldl (fun found entry => if entry.1 = key then some entry.2 else found) none

namespace JsonValue

/-- Python truthiness, `bool(x)`. -/
def truthy : JsonValue → Bool
  | null => false
  | bool b => b
  | int i => i ≠ 0
  | float (.finite m _) => m ≠ 0
  | float _ => true
  | str s => !s.isEmpty
  | list xs => !xs.isEmpty
  | dict entries => !entries.isEmpty

@[simp] theorem truthy_null : null.truthy = false := rfl

@[simp] theorem truthy_str (s : PyStr) : (str s).truthy = !s.isEmpty := rfl

@[simp] theorem truthy_dict (entries : List (PyStr × JsonValue)) :
    (dict entries).truthy = !entries.isEmpty := rfl

/-- `print` of an f-string that holds `{x}` raises `UnicodeEncodeError`: `str(x)` puts a `str`
    in the line as it is, and the `repr` of a container escapes every surrogate. -/
def printRaises (errors : StdoutErrors) : JsonValue → Bool
  | str s => s.any fun c => !errors.encodes c
  | _ => false

/-- `x is None`. -/
def isNull : JsonValue → Bool
  | null => true
  | _ => false

/-- `isinstance(x, dict)`. -/
def isDict : JsonValue → Bool
  | dict _ => true
  | _ => false

/-- `x.get(key, default)`: only dicts have a `get` method. -/
def getD (x : JsonValue) (key : String) (default : JsonValue) : Except PyExc JsonValue :=
  match x with
  | dict entries => pure ((dictGet entries key).getD default)
  | _ => throw .attributeError

/-- `x.get(key)`, whose default is `None`. -/
def get (x : JsonValue) (key : String) : Except PyExc JsonValue := x.getD key null

/-- `key in x` for a string `key`: a key of a dict, an element of a list, a substring of a
    string; other objects are not containers. -/
def contains (x : JsonValue) (key : String) : Except PyExc Bool :=
  match x with
  | dict entries => pure (dictGet entries key).isSome
  | list xs => pure (xs.any fun y => match y with | str s => s = PyStr.ofString key | _ => false)
  | str s => pure (decide (PyStr.ofString key <:+: s))
  | _ => throw .typeError

/-- `x[key]` for a string `key`: lists and strings take only integer indices. -/
def index (x : JsonValue) (key : String) : Except PyExc JsonValue :=
  match x with
  | dict entries => match dictGet entries key with
    | some y => pure y
    | none => throw .keyError
  | list _ | str _ => throw .typeError
  | _ => throw .typeError

/-- `x[i]` for an integer `i`; a negative index counts from the end. -/
def indexInt (x : JsonValue) (i : Int) : Except PyExc JsonValue :=
  match x with
  | list xs =>
    let j := if i < 0 then i + xs.length else i
    if h : 0 ≤ j ∧ j < xs.length then pure (xs.get ⟨j.toNat, by omega⟩) else throw .indexError
  | str s =>
    let j := if i < 0 then i + s.length else i
    if h : 0 ≤ j ∧ j < s.length then pure (str [s.get ⟨j.toNat, by omega⟩]) else throw .indexError
  | dict _ => throw .keyError
  | _ => throw .typeError

/-! ### The exceptions of each operation -/

end JsonValue

end KdappCoordinator

namespace KdappCoordinator

/-! ## `str` methods on the text the engine and the agents send -/

/-- `str.isspace` on one character: the characters `str.strip()` removes. -/
def pyIsSpace (c : Char) : Bool :=
  c = ' ' || ('\t' ≤ c && c ≤ '\r') || ('\x1c' ≤ c && c ≤ '\x1f') || c = '\x85' ||
    c = '\xa0' || c = ' ' || (' ' ≤ c && c ≤ ' ') || c = ' ' ||
    c = ' ' || c = ' ' || c = ' ' || c = '　'

/-- `s.strip()`. -/
def pyStrip (s : List Char) : List Char :=
  ((s.dropWhile pyIsSpace).reverse.dropWhile pyIsSpace).reverse

/-- `s.lower()`, exact on every character whose lower case is ASCII: `A`-`Z`, the Kelvin
    sign and the dotted capital I. Every other character is kept, which changes no test
    against an ASCII phrase. -/
def pyLower (s : List Char) : List Char :=
  s.flatMap fun c =>
    if 'A' ≤ c ∧ c ≤ 'Z' then [Char.ofNat (c.toNat + 32)]
    else if c = 'K' then ['k']
    else if c = 'İ' then ['i', '̇']
    else [c]

/-- `needle in s` for strings. -/
def pySubstr (needle s : List Char) : Bool := decide (needle <:+: s)

end KdappCoordinator
