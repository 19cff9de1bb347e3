import KdappCoordinator.Python.Json

/-!
# `json.loads`

The coordinator calls `json.loads` on every line the engine prints (`send_mcp_request`)
and on the text an agent's regex extracts (`get_move_from_agent1/2`). This is the scanner
of CPython's `json` package (`scanner.py`, `decoder.py`): a value is a string, an object,
an array, `null`, `true`, `false`, a number, or one of `NaN`, `Infinity`, `-Infinity`;
whitespace between tokens is ` \t\n\r`; `loads` rejects trailing text ("Extra data").
`none` is a raised `JSONDecodeError`.

Recursion into arrays and objects is bounded by `fuel`; every nested call consumes at
least one character, so `decodeJson` gives the scanner one more unit than the text's
length. Floats keep their decimal digits rather than being rounded to binary, which does not
change whether a text parses. The text is a `PyStr`: `json.loads` takes any `str`, and an
unpaired `\uD800`-`\uDFFF` escape decodes to a lone surrogate.

CPython adds two limits to the grammar. An integer literal of more than 4300 digits raises
`ValueError` (`sys.int_info.default_max_str_digits`), and each array or object entered
takes one level of the interpreter's recursion limit, past which `RecursionError` is raised.
`jsonLoads depth` is the scan with both: a text is accepted when it scans and its value has
no integer of more than 4300 digits and no nesting deeper than `depth` (`withinLimits`).
The scanner keeps every entry of an object, so the value holds every literal the text has,
and the test on the value is the test the scanner makes on the way.
-/

namespace KdappCoordinator

/-- JSON whitespace, skipped between tokens. -/
def isJsonSpace (c : PyChar) : Bool :=
  c = .char ' ' || c = .char '\t' || c = .char '\n' || c = .char '\r'

/-- The scanner's `_w(s, end).end()`. -/
def skipWs (cs : PyStr) : PyStr := cs.dropWhile isJsonSpace

/-- An ASCII digit, the scanner's `0`-`9`. -/
def PyChar.isDigit : PyChar → Bool
  | .char c => c.isDigit
  | .surrogate _ => false

/-- The value of a run of decimal digits. -/
def digitsValue (ds : PyStr) : Nat :=
  ds.foldl (fun n d => 10 * n + (d.toNat - '0'.toNat)) 0

/-- The value of a hexadecimal digit. -/
def hexDigit : PyChar → Option Nat
  | .char c =>
    if c.isDigit then some (c.toNat - '0'.toNat)
    else if 'a' ≤ c ∧ c ≤ 'f' then some (c.toNat - 'a'.toNat + 10)
    else if 'A' ≤ c ∧ c ≤ 'F' then some (c.toNat - 'A'.toNat + 10)
    else none
  | .surrogate _ => none

/-- Four hexadecimal digits of a `\u` escape. -/
def hex4 (a b c d : PyChar) : Option Nat := do
  pure ((((← hexDigit a) * 16 + (← hexDigit b)) * 16 + (← hexDigit c)) * 16 + (← hexDigit d))

/-- The one-character escapes `\" \\ \/ \b \f \n \r \t`. -/
def simpleEscape : PyChar → Option PyChar
  | .char '"' => some (.char '"')
  | .char '\\' => some (.char '\\')
  | .char '/' => some (.char '/')
  | .char 'b' => some (.char '\x08')
  | .char 'f' => some (.char '\x0c')
  | .char 'n' => some (.char '\n')
  | .char 'r' => some (.char '\r')
  | .char 't' => some (.char '\t')
  | _ => none

/-- `scanstring`: the characters of a string after its opening quote, up to the closing
    quote, with the text after it. Control characters are refused (`strict=True`); a `\u`
    escape of a high surrogate followed by one of a low surrogate gives the character they
    encode, and any other surrogate escape a lone surrogate. Each step consumes a character,
    so `fuel` one above the text's length never runs out. -/
def scanStringAux : Nat → PyStr → PyStr → Option (PyStr × PyStr)
  | 0, _, _ => none
  | _ + 1, [], _ => none
  | fuel + 1, c :: rest, acc =>
    if c = .char '"' then some (acc.reverse, rest)
    else if c = .char '\\' then
      match rest with
      | .char 'u' :: a :: b :: c :: d :: rest =>
        match hex4 a b c d, rest with
        | some hi, .char '\\' :: .char 'u' :: a' :: b' :: c' :: d' :: rest' =>
          match hex4 a' b' c' d' with
          | some lo =>
            if 0xd800 ≤ hi ∧ hi ≤ 0xdbff ∧ 0xdc00 ≤ lo ∧ lo ≤ 0xdfff then
              scanStringAux fuel rest'
                (PyChar.ofNat (0x10000 + (hi - 0xd800) * 0x400 + (lo - 0xdc00)) :: acc)
            else scanStringAux fuel rest (PyChar.ofNat hi :: acc)
          | none => scanStringAux fuel rest (PyChar.ofNat hi :: acc)
        | some hi, _ => scanStringAux fuel rest (PyChar.ofNat hi :: acc)
        | none, _ => none
      | e :: rest =>
        match simpleEscape e with
        | some e => scanStringAux fuel rest (e :: acc)
        | none => none
      | [] => none
    else if c.toNat < 0x20 then none
    else scanStringAux fuel rest (c :: acc)

/-- `scanstring` on the text after an opening quote. -/
def scanString (cs : PyStr) : Option (PyStr × PyStr) :=
  scanStringAux (cs.length + 1) cs []

/-- The optional exponent of a number: `[eE][-+]?[0-9]+`, or nothing (the `e` is then not
    consumed). -/
def scanExponent (cs : PyStr) : Int × PyStr :=
  match cs with
  | e :: rest =>
    if e = .char 'e' ∨ e = .char 'E' then
      let (negative, digits) := match rest with
        | .char '-' :: r => (true, r)
        | .char '+' :: r => (false, r)
        | r => (false, r)
      match digits.takeWhile PyChar.isDigit with
      | [] => (0, cs)
      | ds => ((if negative then -1 else 1) * digitsValue ds, digits.dropWhile PyChar.isDigit)
    else (0, cs)
  | [] => (0, [])

/-- `match_number`: `-?(0|[1-9][0-9]*)(\.[0-9]+)?([eE][-+]?[0-9]+)?`, an `int` without
    fraction and exponent and a `float` otherwise. -/
def scanNumber (cs : PyStr) : Option (JsonValue × PyStr) :=
  let (negative, body) := match cs with
    | .char '-' :: r => (true, r)
    | r => (false, r)
  let sign : Int := if negative then -1 else 1
  let intPart : Option (PyStr × PyStr) := match body with
    | .char '0' :: r => some ([.char '0'], r)
    | c :: r => if c.isDigit then
        some (c :: r.takeWhile PyChar.isDigit, r.dropWhile PyChar.isDigit) else none
    | [] => none
  intPart.map fun (whole, afterWhole) =>
    let (frac, afterFrac) : PyStr × PyStr := match afterWhole with
      | .char '.' :: d :: r => if d.isDigit then
          (d :: r.takeWhile PyChar.isDigit, r.dropWhile PyChar.isDigit)
        else ([], afterWhole)
      | _ => ([], afterWhole)
    let (exp, rest) := scanExponent afterFrac
    if frac.isEmpty ∧ rest.length = afterFrac.length then (.int (sign * digitsValue whole), rest)
    else (.float (.finite (sign * digitsValue (whole ++ frac)) (exp - frac.length)), rest)

/-- `_parse_array` after `[` and a first element's start: `value (, value)* ]`. -/
def scanArrayItems (scan : PyStr → Option (JsonValue × PyStr)) :
    Nat → PyStr → List JsonValue → Option (JsonValue × PyStr)
  | 0, _, _ => none
  | fuel + 1, cs, acc => do
    let (v, rest) ← scan cs
    match skipWs rest with
    | .char ',' :: rest' => scanArrayItems scan fuel (skipWs rest') (acc ++ [v])
    | .char ']' :: rest' => pure (.list (acc ++ [v]), rest')
    | _ => none

/-- `_parse_object` after `{` and the start of a first key:
    `"key" : value (, "key" : value)* }`. -/
def scanObjectItems (scan : PyStr → Option (JsonValue × PyStr)) :
    Nat → PyStr → List (PyStr × JsonValue) → Option (JsonValue × PyStr)
  | 0, _, _ => none
  | fuel + 1, .char '"' :: cs, acc => do
    let (key, afterKey) ← scanString cs
    match skipWs afterKey with
    | .char ':' :: afterColon =>
      let (v, rest) ← scan (skipWs afterColon)
      match skipWs rest with
      | .char ',' :: rest' => scanObjectItems scan fuel (skipWs rest') (acc ++ [(key, v)])
      | .char '}' :: rest' => pure (.dict (acc ++ [(key, v)]), rest')
      | _ => none
    | _ => none
  | _ + 1, _, _ => none

/-- `scan_once`: one JSON value at the head of the text. -/
def scanValue : Nat → PyStr → Option (JsonValue × PyStr)
  | 0, _ => none
  | fuel + 1, cs =>
    match cs with
    | .char '"' :: rest => (scanString rest).map fun (s, rest') => (.str s, rest')
    | .char '{' :: rest =>
      match skipWs rest with
      | .char '}' :: rest' => some (.dict [], rest')
      | rest' => scanObjectItems (scanValue fuel) fuel rest' []
    | .char '[' :: rest =>
      match skipWs rest with
      | .char ']' :: rest' => some (.list [], rest')
      | rest' => scanArrayItems (scanValue fuel) fuel rest' []
    | .char 'n' :: .char 'u' :: .char 'l' :: .char 'l' :: rest => some (.null, rest)
    | .char 't' :: .char 'r' :: .char 'u' :: .char 'e' :: rest => some (.bool true, rest)
    | .char 'f' :: .char 'a' :: .char 'l' :: .char 's' :: .char 'e' :: rest =>
      some (.bool false, rest)
    | .char 'N' :: .char 'a' :: .char 'N' :: rest => some (.float .nan, rest)
    | .char 'I' :: .char 'n' :: .char 'f' :: .char 'i' :: .char 'n' :: .char 'i' :: .char 't' ::
        .char 'y' :: rest => some (.float (.infinity false), rest)
    | .char '-' :: .char 'I' :: .char 'n' :: .char 'f' :: .char 'i' :: .char 'n' :: .char 'i' ::
        .char 't' :: .char 'y' :: rest => some (.float (.infinity true), rest)
    | _ => scanNumber cs

/-- `JSONDecoder.decode(s)` without CPython's limits: one value, surrounded only by
    whitespace. -/
def decodeJson (s : PyStr) : Option JsonValue :=
  match scanValue (s.length + 1) (skipWs s) with
  | some (v, rest) => if skipWs rest = [] then some v else none
  | none => none

/-- CPython's `sys.int_info.default_max_str_digits`: `int` refuses to read or write a decimal
    numeral of more digits. -/
def intMaxStrDigits : Nat := 4300

/-- The number of decimal digits of an integer, its sign apart. -/
def decimalDigits (i : Int) : Nat := (toString i.natAbs).length

mutual

/-- A value within CPython's limits: arrays and objects nested at most `depth` deep, and no
    integer of more than 4300 digits. -/
def JsonValue.withinLimits : Nat → JsonValue → Bool
  | _, .int i => decimalDigits i ≤ intMaxStrDigits
  | 0, .list _ => false
  | 0, .dict _ => false
  | depth + 1, .list xs => itemsWithinLimits depth xs
  | depth + 1, .dict entries => entriesWithinLimits depth entries
  | _, _ => true

def itemsWithinLimits : Nat → List JsonValue → Bool
  | _, [] => true
  | depth, x :: xs => x.withinLimits depth && itemsWithinLimits depth xs

def entriesWithinLimits : Nat → List (PyStr × JsonValue) → Bool
  | _, [] => true
  | depth, (_, v) :: entries => v.withinLimits depth && entriesWithinLimits depth entries

end

/-- CPython's default recursion limit, `sys.getrecursionlimit()`; the coordinator keeps it. -/
def recursionLimit : Nat := 1000

/-- The deepest nesting `json.loads` and `json.dumps` reach when called with `frames` frames on
    the stack below them. CPython 3.11 counts against the recursion limit every Python frame
    (and the interpreter's call into `__init__`), the three frames of `loads`, `decode` and
    `raw_decode` (or `dumps`, `encode` and `iterencode`), and each array or object entered. -/
def jsonDepthLimit (frames : Nat) : Nat := recursionLimit - (frames + 4)

/-- `json.loads(s)` called with `depth` levels of nesting left: the scan, refused with
    `ValueError` or `RecursionError` past CPython's limits. -/
def jsonLoads (depth : Nat) (s : PyStr) : Option JsonValue :=
  (decodeJson s).filter (·.withinLimits depth)

/-- No JSON value starts with a backslash, so `json.loads` rejects every text that does. -/
theorem jsonLoads_backslash (depth : Nat) (cs : PyStr) :
    jsonLoads depth (.char '\\' :: cs) = none := rfl

example : jsonLoads 1 "\x7b\"result\": null\x7d" = some (.dict [("result", .null)]) := rfl

example : jsonLoads 1 "[[]]" = none ∧ jsonLoads 2 "[[]]" = some (.list [.list []]) := ⟨rfl, rfl⟩

end KdappCoordinator
