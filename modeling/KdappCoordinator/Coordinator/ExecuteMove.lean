import KdappCoordinator.Python.Json

/-!
# The verdict of `execute_move`

`execute_move` (`tictactoe_coordinator.py:220-261`) accepts the engine's answer to a
`kdapp_execute_command` call when it is a dict with a `result` and no `error`; with on-chain
enforcement on, a null `result` is refused and otherwise `extract_tx_hash` (`:178-203`) must
find a transaction id. `extract_tx_hash` looks at the fields `tx_hash`, `txid`, `tx`,
`transaction`, `hash` of the result and keeps the first with a truthy value; failing that, at
`tx_hash`, `txid`, `hash` of a nested `receipt` dict, and returns the first one present,
whatever its value; and it takes a result string of at least 8 characters as the id itself.

The two field searches differ in the truthiness test, and that difference decides moves: a
receipt whose first present field is empty makes the move fail even when a later field holds
an id (`moveAccepted_receipt_first_present`).
-/

namespace KdappCoordinator

/-- The result fields `extract_tx_hash` tries (`:190`). -/
def txFields : List String := ["tx_hash", "txid", "tx", "transaction", "hash"]

/-- The fields of a nested `receipt` it tries (`:195`). -/
def receiptFields : List String := ["tx_hash", "txid", "hash"]

/-- `for key in txFields: if key in result and result[key]: return result[key]` (`:190-192`):
    the first field that is present with a truthy value. -/
def firstTruthyField (result : List (PyStr × JsonValue)) : Option JsonValue :=
  txFields.findSome? fun key => (dictGet result key).filter JsonValue.truthy

/-- `for key in receiptFields: if key in receipt: return receipt[key]` (`:195-197`): the first
    field that is present, with no test of its value. -/
def firstPresentField (receipt : List (PyStr × JsonValue)) : Option JsonValue :=
  receiptFields.findSome? fun key => dictGet receipt key

/-- `extract_tx_hash` (`:178-203`); Python's `None` is `JsonValue.null`. -/
def extractTxHash (response : JsonValue) : JsonValue :=
  match response with
  | .dict entries =>
    let result := (dictGet entries "result").getD .null
    if !result.truthy then .null
    else match result with
      | .dict r =>
        match firstTruthyField r with
        | some v => v
        | none =>
          match dictGet r "receipt" with
          | some (.dict receipt) => (firstPresentField receipt).getD .null
          | _ => .null
      | .str s => if 8 ≤ s.length then .str s else .null
      | _ => .null
  | _ => .null

/-- The value `execute_move` returns on the engine's answer `response` (`:243-261`). -/
def moveAccepted (requireOnchain : Bool) (response : JsonValue) : Bool :=
  match response with
  | .dict entries =>
    match dictGet entries "error", dictGet entries "result" with
    | none, some result =>
      if result.isNull && requireOnchain then false
      else if requireOnchain && !(extractTxHash response).truthy then false
      else true
    | _, _ => false
  | _ => false

/-- With enforcement on, a result without a truthy direct id but with a receipt whose first
    present field is empty is refused, whatever the later receipt fields hold. -/
theorem moveAccepted_receipt_first_present {entries result receipt : List (PyStr × JsonValue)}
    {v : JsonValue} (he : dictGet entries "error" = none)
    (hr : dictGet entries "result" = some (.dict result)) (hnonempty : result ≠ [])
    (hdirect : firstTruthyField result = none)
    (hrc : dictGet result "receipt" = some (.dict receipt))
    (hfirst : firstPresentField receipt = some v) (hv : v.truthy = false) :
    moveAccepted true (.dict entries) = false := by
  simp [moveAccepted, he, hr, extractTxHash, hnonempty, hdirect, hrc, hfirst, hv,
    JsonValue.isNull]

/-- An answer whose receipt has a null `tx_hash` and an id in `txid`: `extract_tx_hash` returns
    the null and the move is refused. -/
theorem moveAccepted_null_receipt_hash :
    let receipt : List (PyStr × JsonValue) := [("tx_hash", .null), ("txid", .str "abcdef12")]
    let response : JsonValue := .dict [("result", .dict [("receipt", .dict receipt)])]
    dictGet receipt "txid" = some (.str "abcdef12") ∧ extractTxHash response = .null ∧
      moveAccepted true response = false :=
  ⟨rfl, rfl, moveAccepted_receipt_first_present rfl rfl (List.cons_ne_nil _ _) rfl rfl rfl rfl⟩

end KdappCoordinator
