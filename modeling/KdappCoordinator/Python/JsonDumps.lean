import KdappCoordinator.Python.JsonLoads
import Mathlib.Tactic.Ring

/-!
# `json.dumps`

`send_mcp_request` writes `json.dumps(request) + "\n"` (`tictactoe_coordinator.py:549`). With
its default arguments `json.dumps` (`json/encoder.py`) writes `, ` between items and `: `
after keys, writes `NaN`, `Infinity` and `-Infinity` for the non-finite floats
(`allow_nan`), and escapes the quote, the backslash and every character outside ` `-`~`
(`ensure_ascii`): the control characters by their short escapes or `\u00XX`, the others by
`\uXXXX`, as a surrogate pair above `U+FFFF`. A dict is written item by item in insertion
order; a key the engine's JSON gave twice is one item of the dict `json.loads` built, at its
first place, with its last value (`pyDictItems`).

Floats are exact decimals here (`PyFloat`). `float.__repr__` writes the shortest digits that
name the double; `floatRepr` writes the decimal's own digits, trailing zeros dropped, in the
same layout, which is `repr`'s text whenever the engine's text named its double by those
shortest digits.

Everything `json.dumps` writes is printable ASCII (`pyDumps_printable`).
-/

namespace KdappCoordinator

/-- A printable ASCII character, ` ` (32) to `~` (126): what `json.dumps` writes unescaped. -/
def Printable (c : Char) : Prop := 32 ≤ c.toNat ∧ c.toNat ≤ 126

instance : DecidablePred Printable := fun c =>
  inferInstanceAs (Decidable (32 ≤ c.toNat ∧ c.toNat ≤ 126))

/-- A hexadecimal digit as `'{0:04x}'` writes it. -/
def hexChar (d : Nat) : Char := if d < 10 then Char.ofNat (48 + d) else Char.ofNat (87 + d)

/-- `'\\u{0:04x}'.format(n)` for a code unit `n < 0x10000`. -/
def uEscape (n : Nat) : List Char :=
  ['\\', 'u', hexChar (n / 4096 % 16), hexChar (n / 256 % 16), hexChar (n / 16 % 16),
    hexChar (n % 16)]

/-- `ESCAPE_ASCII.sub(replace, ...)` on one character (`encoder.py`, `py_encode_basestring_ascii`);
    a lone surrogate is a code point below `0x10000`, written as one `\uXXXX`. -/
def escapeChar : PyChar → List Char
  | .surrogate k => uEscape (0xd800 + k.val)
  | .char c =>
  if c = '\\' then ['\\', '\\']
  else if c = '"' then ['\\', '"']
  else if c = '\x08' then ['\\', 'b']
  else if c = '\x0c' then ['\\', 'f']
  else if c = '\n' then ['\\', 'n']
  else if c = '\r' then ['\\', 'r']
  else if c = '\t' then ['\\', 't']
  else if ' ' ≤ c ∧ c ≤ '~' then [c]
  else if c.toNat < 0x10000 then uEscape c.toNat
  else uEscape (0xd800 + (c.toNat - 0x10000) / 0x400) ++
    uEscape (0xdc00 + (c.toNat - 0x10000) % 0x400)

/-- `encode_basestring_ascii(s)`: the quoted, escaped string. -/
def dumpsString (s : PyStr) : List Char := '"' :: s.flatMap escapeChar ++ ['"']

/-- `s.rstrip('0')` of a digit string, with the number of zeros dropped. -/
def stripZeros (digits : List Char) : List Char × Nat :=
  let kept := (digits.reverse.dropWhile (· = '0')).reverse
  (kept, digits.length - kept.length)

/-- `float.__repr__` of `mantissa * 10 ^ exponent` from its digits (`PyOS_double_to_string`
    with format `'r'`): positional when the decimal point falls in `[-4, 16)`, with at least
    one digit after the point, and `d.ddde±XX` otherwise. -/
def floatRepr : PyFloat → List Char
  | .nan => "NaN".data
  | .infinity false => "Infinity".data
  | .infinity true => "-Infinity".data
  | .finite m e =>
    let sign := if m < 0 then ['-'] else []
    if m = 0 then "0.0".data else
    let (digits, zeros) := stripZeros (toString m.natAbs).data
    let decpt : Int := digits.length + e + zeros
    let body :=
      if decpt < -3 ∨ 16 < decpt then
        let exp := decpt - 1
        digits.take 1 ++ (if digits.length ≤ 1 then [] else '.' :: digits.drop 1) ++ 'e' ::
          (if exp < 0 then '-' else '+') ::
          (if exp.natAbs < 10 then ['0'] else []) ++ (toString exp.natAbs).data
      else if decpt ≤ 0 then '0' :: '.' :: List.replicate decpt.natAbs '0' ++ digits
      else if digits.length ≤ decpt.toNat then
        digits ++ List.replicate (decpt.toNat - digits.length) '0' ++ ['.', '0']
      else digits.take decpt.toNat ++ '.' :: digits.drop decpt.toNat
    sign ++ body

/-- `d[key] = value` on a dict's items: a new key is added last, a known key keeps its place
    and takes the value. -/
def dictInsert {α : Type} (items : List (PyStr × α)) (e : PyStr × α) : List (PyStr × α) :=
  if items.any (·.1 = e.1) then items.map fun i => if i.1 = e.1 then (i.1, e.2) else i
  else items ++ [e]

/-- The items of the dict `json.loads` builds from an object's entries: each key once, at its
    first place, with its last value. -/
def pyDictItems {α : Type} (entries : List (PyStr × α)) : List (PyStr × α) :=
  entries.foldl dictInsert []

mutual

/-- `json.dumps(value)` with the default arguments. -/
def pyDumps : JsonValue → List Char
  | .null => "null".data
  | .bool b => if b then "true".data else "false".data
  | .int i => (toString i).data
  | .float f => floatRepr f
  | .str s => dumpsString s
  | .list xs => '[' :: dumpsItems xs ++ [']']
  | .dict entries =>
    '{' :: List.intercalate [',', ' ']
      ((pyDictItems (dumpsEntries entries)).map fun i => dumpsString i.1 ++ ':' :: ' ' :: i.2)
      ++ ['}']

/-- The items of a list, separated by `, `. -/
def dumpsItems : List JsonValue → List Char
  | [] => []
  | [x] => pyDumps x
  | x :: xs => pyDumps x ++ ',' :: ' ' :: dumpsItems xs

/-- Each entry's key with its value written. -/
def dumpsEntries : List (PyStr × JsonValue) → List (PyStr × List Char)
  | [] => []
  | (k, v) :: entries => (k, pyDumps v) :: dumpsEntries entries

end

mutual

/-- The exception `json.dumps(value)` raises with `depth` levels of nesting left: the first, in
    the order it writes, of `ValueError` for an integer of more than 4300 digits
    (`int.__repr__`) and `RecursionError` for an array or object with no level left. A dict is
    written item by item (`pyDictItems`). -/
def dumpsError : Nat → JsonValue → Option PyExc
  | _, .int i => if intMaxStrDigits < decimalDigits i then some .valueError else none
  | 0, .list _ => some .recursionError
  | 0, .dict _ => some .recursionError
  | depth + 1, .list xs => itemsDumpsError depth xs
  | depth + 1, .dict entries => (pyDictItems (entriesDumpsError depth entries)).findSome? (·.2)
  | _, _ => none

def itemsDumpsError : Nat → List JsonValue → Option PyExc
  | _, [] => none
  | depth, x :: xs => (dumpsError depth x).orElse fun _ => itemsDumpsError depth xs

/-- Each entry's key with the exception its value raises. -/
def entriesDumpsError : Nat → List (PyStr × JsonValue) → List (PyStr × Option PyExc)
  | _, [] => []
  | depth, (k, v) :: entries => (k, dumpsError depth v) :: entriesDumpsError depth entries

end

/-- Only the dict's last value for a repeated key is written. -/
example : dumpsError 1 (.list [.list []]) = some .recursionError ∧
    dumpsError 2 (.dict [("a", .list [.list []]), ("a", .int 1)]) = none := ⟨rfl, rfl⟩

/-! ## Numerals

`int.__repr__` writes decimal digits only (`natRepr_isDigit`). -/

theorem toDigitsCore_succ (fuel n : Nat) (ds : List Char) :
    Nat.toDigitsCore 10 (fuel + 1) n ds =
      if n / 10 = 0 then Nat.digitChar (n % 10) :: ds
      else Nat.toDigitsCore 10 fuel (n / 10) (Nat.digitChar (n % 10) :: ds) := rfl

/-- `Nat.toDigitsCore` puts only digits before the ones it is given. -/
theorem toDigitsCore_isDigit (fuel n : Nat) (ds : List Char) (h : ∀ c ∈ ds, c.isDigit) :
    ∀ c ∈ Nat.toDigitsCore 10 fuel n ds, c.isDigit := by
  induction fuel generalizing n ds with
  | zero => exact h
  | succ fuel ih =>
    have hd : (Nat.digitChar (n % 10)).isDigit := by
      have : ∀ d < 10, (Nat.digitChar d).isDigit := by decide
      exact this _ (Nat.mod_lt _ (by decide))
    rw [toDigitsCore_succ]
    split
    · exact List.forall_mem_cons.mpr ⟨hd, h⟩
    · exact ih _ _ (List.forall_mem_cons.mpr ⟨hd, h⟩)

theorem natRepr_isDigit (n : Nat) : ∀ c ∈ (toString n).data, c.isDigit :=
  toDigitsCore_isDigit (n + 1) n [] fun _ h => nomatch h

/-! ## Everything `json.dumps` writes is printable ASCII -/

theorem forall_mem_intercalate {P : Char → Prop} {sep : List Char} (hs : ∀ c ∈ sep, P c) :
    ∀ (xss : List (List Char)), (∀ xs ∈ xss, ∀ c ∈ xs, P c) → ∀ c ∈ sep.intercalate xss, P c
  | [], _ => by simp [List.intercalate]
  | [xs], h => by simpa [List.intercalate] using h xs (by simp)
  | xs :: ys :: xss, h => by
    have ih := forall_mem_intercalate hs (ys :: xss) fun zs hz => h zs (List.mem_cons_of_mem _ hz)
    simp only [List.intercalate, List.intersperse_cons_cons, List.flatten_cons,
      List.forall_mem_append] at ih ⊢
    exact ⟨h xs (by simp), hs, ih⟩

theorem mem_dictInsert {α : Type} {items : List (PyStr × α)} {e i : PyStr × α}
    (h : i ∈ dictInsert items e) : i ∈ items ∨ i = e := by
  unfold dictInsert at h
  split at h
  · obtain ⟨j, hj, rfl⟩ := List.mem_map.mp h
    split
    · rename_i hje
      exact .inr (Prod.ext hje rfl)
    · exact .inl hj
  · simpa using h

/-- Every item of the dict is one of the entries. -/
theorem mem_pyDictItems {α : Type} {entries : List (PyStr × α)} {i : PyStr × α}
    (h : i ∈ pyDictItems entries) : i ∈ entries := by
  suffices ∀ (es items : List (PyStr × α)), i ∈ es.foldl dictInsert items → i ∈ items ∨ i ∈ es
    from (this entries [] h).resolve_left (List.not_mem_nil _)
  intro es
  induction es with
  | nil => exact fun _ => .inl
  | cons e es ih =>
    intro items hi
    rcases ih _ hi with hi | hi
    · rcases mem_dictInsert hi with hi | rfl
      · exact .inl hi
      · exact .inr (List.mem_cons_self _ _)
    · exact .inr (List.mem_cons_of_mem _ hi)

/-- The exceptions `json.dumps` raises. -/
def DumpsExc (e : PyExc) : Prop := e = .valueError ∨ e = .recursionError

theorem dumpsError_int {depth : Nat} {i : Int} {e : PyExc}
    (h : dumpsError depth (.int i) = some e) : e = .valueError := by
  have hi : dumpsError depth (.int i) =
      if intMaxStrDigits < decimalDigits i then some .valueError else none := by
    cases depth <;> rfl
  rw [hi] at h
  split at h <;> cases h
  rfl

mutual

theorem dumpsError_exc : ∀ (depth : Nat) (v : JsonValue) (e : PyExc),
    dumpsError depth v = some e → DumpsExc e
  | depth, .null, _, h | depth, .bool _, _, h | depth, .float _, _, h | depth, .str _, _, h => by
    cases depth <;> cases h
  | _, .int _, _, h => .inl (dumpsError_int h)
  | 0, .list _, _, h | 0, .dict _, _, h => by cases h; exact .inr rfl
  | depth + 1, .list xs, e, h => itemsDumpsError_exc depth xs e h
  | depth + 1, .dict entries, e, h => by
    obtain ⟨i, hi, he⟩ := List.exists_of_findSome?_eq_some h
    exact entriesDumpsError_exc depth entries i (mem_pyDictItems hi) e he

theorem itemsDumpsError_exc : ∀ (depth : Nat) (xs : List JsonValue) (e : PyExc),
    itemsDumpsError depth xs = some e → DumpsExc e
  | _, [], _, h => by cases h
  | depth, x :: xs, e, h => by
    simp only [itemsDumpsError] at h
    cases hx : dumpsError depth x with
    | some e' =>
      rw [hx] at h
      cases h
      exact dumpsError_exc depth x e hx
    | none =>
      rw [hx] at h
      exact itemsDumpsError_exc depth xs e h

theorem entriesDumpsError_exc : ∀ (depth : Nat) (entries : List (PyStr × JsonValue)),
    ∀ i ∈ entriesDumpsError depth entries, ∀ e, i.2 = some e → DumpsExc e
  | _, [] => by simp [entriesDumpsError]
  | depth, (k, v) :: entries => by
    simp only [entriesDumpsError, List.forall_mem_cons]
    exact ⟨dumpsError_exc depth v, entriesDumpsError_exc depth entries⟩

end

theorem printable_of_isDigit {c : Char} (h : c.isDigit) : Printable c := by
  simp only [Char.isDigit, Bool.and_eq_true, decide_eq_true_eq] at h
  have h1 : 48 ≤ c.toNat := h.1
  have h2 : c.toNat ≤ 57 := h.2
  exact ⟨by omega, by omega⟩

theorem natRepr_printable (n : Nat) : ∀ c ∈ (toString n).data, Printable c :=
  fun c hc => printable_of_isDigit (natRepr_isDigit n c hc)

theorem intRepr_printable (i : Int) : ∀ c ∈ (toString i).data, Printable c := by
  cases i with
  | ofNat n => exact natRepr_printable n
  | negSucc n => exact List.forall_mem_cons.mpr ⟨by decide, natRepr_printable (n + 1)⟩

theorem forall_mem_ite {α : Type} {P : α → Prop} {p : Prop} [Decidable p] {a b : List α}
    (ha : p → ∀ x ∈ a, P x) (hb : ¬p → ∀ x ∈ b, P x) : ∀ x ∈ (if p then a else b), P x := by
  split_ifs with h
  exacts [ha h, hb h]

/-- Every layout of `repr` writes digits, the sign, the point and the exponent's `e`, `+`, `-`. -/
theorem floatRepr_printable (f : PyFloat) : ∀ c ∈ floatRepr f, Printable c := by
  cases f with
  | nan => decide
  | infinity neg => cases neg <;> decide
  | finite m e =>
    have hdigits : ∀ c ∈ (stripZeros (toString m.natAbs).data).1, Printable c := fun c hc => by
      simp only [stripZeros, List.mem_reverse] at hc
      exact natRepr_printable _ c (List.mem_reverse.mp ((List.dropWhile_sublist _).subset hc))
    unfold floatRepr
    dsimp only
    refine forall_mem_ite (fun _ => by decide) fun _ => ?_
    generalize stripZeros (toString m.natAbs).data = p at hdigits ⊢
    obtain ⟨digits, zeros⟩ := p
    have htake : ∀ n, ∀ c ∈ digits.take n, Printable c :=
      fun _ c hc => hdigits c (List.mem_of_mem_take hc)
    have hdrop : ∀ n, ∀ c ∈ digits.drop n, Printable c :=
      fun _ c hc => hdigits c (List.mem_of_mem_drop hc)
    have hzeros : ∀ n, ∀ c ∈ List.replicate n '0', Printable c :=
      fun _ c hc => (List.eq_of_mem_replicate hc) ▸ by decide
    refine List.forall_mem_append.mpr ⟨forall_mem_ite (fun _ => by decide) fun _ => by decide, ?_⟩
    refine forall_mem_ite (fun _ => ?_) fun _ => forall_mem_ite (fun _ => ?_) fun _ =>
      forall_mem_ite (fun _ => ?_) fun _ => ?_
    · simp only [List.forall_mem_append, List.forall_mem_cons]
      exact ⟨⟨⟨htake 1, forall_mem_ite (fun _ _ h => nomatch h)
        fun _ => List.forall_mem_cons.mpr ⟨by decide, hdrop 1⟩⟩, by decide, by split <;> decide,
        forall_mem_ite (fun _ => by decide) fun _ _ h => nomatch h⟩, natRepr_printable _⟩
    · simp only [List.forall_mem_append, List.forall_mem_cons]
      exact ⟨⟨by decide, by decide, hzeros _⟩, hdigits⟩
    · simp only [List.forall_mem_append]
      exact ⟨⟨hdigits, hzeros _⟩, by decide⟩
    · simp only [List.forall_mem_append, List.forall_mem_cons]
      exact ⟨htake _, by decide, hdrop _⟩

theorem escapeChar_printable (c : PyChar) : ∀ d ∈ escapeChar c, Printable d := by
  have hex : ∀ n, ∀ d ∈ uEscape n, Printable d := fun n => by
    have h16 : ∀ k < 16, Printable (hexChar k) := by decide
    simp only [uEscape, List.forall_mem_cons, List.forall_mem_singleton]
    exact ⟨by decide, by decide, h16 _ (Nat.mod_lt _ (by decide)), h16 _ (Nat.mod_lt _ (by decide)),
      h16 _ (Nat.mod_lt _ (by decide)), h16 _ (Nat.mod_lt _ (by decide)), fun _ h => nomatch h⟩
  cases c with
  | surrogate k => exact hex _
  | char c =>
  unfold escapeChar
  repeat' refine forall_mem_ite (fun _ => ?_) (fun _ => ?_)
  all_goals first
    | decide
    | exact hex _
    | exact List.forall_mem_append.mpr ⟨hex _, hex _⟩
    | exact List.forall_mem_singleton.mpr ‹_›

theorem dumpsString_printable (s : PyStr) : ∀ c ∈ dumpsString s, Printable c := by
  simp only [dumpsString, List.forall_mem_cons, List.forall_mem_append, List.forall_mem_flatMap,
    List.forall_mem_singleton]
  exact ⟨⟨by decide, fun c _ => escapeChar_printable c⟩, by decide⟩

mutual

/-- `json.dumps` writes printable ASCII only, whatever the value. -/
theorem pyDumps_printable : ∀ (v : JsonValue), ∀ c ∈ pyDumps v, Printable c
  | .null => by decide
  | .bool b => by cases b <;> decide
  | .int i => by simpa only [pyDumps] using intRepr_printable i
  | .float f => by simpa only [pyDumps] using floatRepr_printable f
  | .str s => by simpa only [pyDumps] using dumpsString_printable s
  | .list xs => by
    simp only [pyDumps, List.forall_mem_cons, List.forall_mem_append, List.forall_mem_singleton]
    exact ⟨⟨by decide, dumpsItems_printable xs⟩, by decide⟩
  | .dict entries => by
    simp only [pyDumps, List.forall_mem_cons, List.forall_mem_append, List.forall_mem_singleton]
    refine ⟨⟨by decide, forall_mem_intercalate (by decide) _ fun item hitem => ?_⟩, by decide⟩
    obtain ⟨i, hi, rfl⟩ := List.mem_map.mp hitem
    simp only [List.forall_mem_append, List.forall_mem_cons]
    exact ⟨dumpsString_printable _, by decide, by decide,
      dumpsEntries_printable entries i (mem_pyDictItems hi)⟩

theorem dumpsItems_printable : ∀ (xs : List JsonValue), ∀ c ∈ dumpsItems xs, Printable c
  | [] => by simp [dumpsItems]
  | [x] => by simpa only [dumpsItems] using pyDumps_printable x
  | x :: y :: xs => by
    simp only [dumpsItems, List.forall_mem_append, List.forall_mem_cons]
    exact ⟨pyDumps_printable x, by decide, by decide, dumpsItems_printable (y :: xs)⟩

theorem dumpsEntries_printable :
    ∀ (entries : List (PyStr × JsonValue)), ∀ i ∈ dumpsEntries entries, ∀ c ∈ i.2, Printable c
  | [] => by simp [dumpsEntries]
  | (k, v) :: entries => by
    simp only [dumpsEntries, List.forall_mem_cons]
    exact ⟨pyDumps_printable v, dumpsEntries_printable entries⟩

end

/-- No newline inside a dumped value: the text is one line. -/
theorem newline_not_mem_pyDumps (v : JsonValue) : '\n' ∉ pyDumps v :=
  fun h => absurd (pyDumps_printable v _ h).1 (by decide)

example : pyDumps (.dict [("id", .int (-12)), ("s", .str "a\n\"é"), ("id", .list [.null, .bool true])]) =
    "\x7b\"id\": [null, true], \"s\": \"a\\n\\\"\\u00e9\"\x7d".data := by
  decide

example : floatRepr (.finite 15 (-1)) = "1.5".data ∧ floatRepr (.finite 1 16) = "1e+16".data ∧
    floatRepr (.finite (-1) (-5)) = "-1e-05".data ∧ floatRepr (.finite 1200 (-2)) = "12.0".data := by
  decide

end KdappCoordinator
