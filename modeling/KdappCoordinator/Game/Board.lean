import Mathlib.Data.Fintype.Prod
import Mathlib.Data.Finset.Card

/-!
# The board and `check_winner`

`self.game_board` is a 3x3 list of `None`, `"X"` and `"O"` (`tictactoe_coordinator.py:102`).
The coordinator only indexes it at in-range cells (the agent's move is range-checked by
`is_valid_move_candidate`, every other move comes from `range(3)`), so a board is a
function on `Fin 3 × Fin 3`. `check_winner` (`:464-491`) scans the rows, the columns and the
two diagonals in that order, returns the mark of the first complete line, then `"Draw"` on
a full board, then `None` (`checkWinner_spec`).

A move placed on an empty cell can only complete lines through that cell, all of the
mover's mark (`lineWinner_updateBoard`), and it fills exactly one more cell
(`filledCount_updateBoard`, `markCount_updateBoard_self`): the loop invariants of
`play_game` are built from these.
-/

namespace KdappCoordinator

/-- The marks `"X"` and `"O"` of `current_player`. -/
inductive Mark where
  | X
  | O
  deriving DecidableEq, Repr

/-- `"O" if self.current_player == "X" else "X"` (`:619`, `:647`). -/
def Mark.other : Mark → Mark
  | .X => .O
  | .O => .X

@[simp] theorem Mark.other_ne (m : Mark) : m.other ≠ m := by cases m <;> decide

@[simp] theorem Mark.other_other (m : Mark) : m.other.other = m := by cases m <;> rfl

/-- A cell index `(row, col)`. -/
abbrev Pos := Fin 3 × Fin 3

/-- `self.game_board`: `b (row, col)` is `game_board[row][col]`. -/
abbrev Board := Pos → Option Mark

/-- `[[None for _ in range(3)] for _ in range(3)]` (`:102`). -/
def emptyBoard : Board := fun _ => none

/-- `update_board` (`:493-495`): `game_board[row][col] = player`. -/
def updateBoard (b : Board) (p : Pos) (player : Mark) : Board :=
  fun q => if q = p then some player else b q

@[simp] theorem updateBoard_apply (b : Board) (p q : Pos) (m : Mark) :
    updateBoard b p m q = if q = p then some m else b q := rfl

/-- The results of `check_winner` other than `None`: `"X"`, `"O"` and `"Draw"`. -/
inductive Winner where
  | mark (m : Mark)
  | draw
  deriving DecidableEq, Repr

/-- `a == b == c and a is not None`, giving the mark. -/
def tripleWinner (a b c : Option Mark) : Option Mark :=
  if a = b ∧ b = c then a else none

/-- The eight lines in the order `check_winner` tests them: rows, columns, the diagonal
    and the anti-diagonal. -/
def winLines : List (Pos × Pos × Pos) :=
  [((0, 0), (0, 1), (0, 2)), ((1, 0), (1, 1), (1, 2)), ((2, 0), (2, 1), (2, 2)),
   ((0, 0), (1, 0), (2, 0)), ((0, 1), (1, 1), (2, 1)), ((0, 2), (1, 2), (2, 2)),
   ((0, 0), (1, 1), (2, 2)), ((0, 2), (1, 1), (2, 0))]

/-- The mark completing a line, if any. -/
def lineWinner (b : Board) (l : Pos × Pos × Pos) : Option Mark :=
  tripleWinner (b l.1) (b l.2.1) (b l.2.2)

/-- The cells in the order `for i in range(3): for j in range(3)` visits them. -/
def positions : List Pos :=
  [(0, 0), (0, 1), (0, 2), (1, 0), (1, 1), (1, 2), (2, 0), (2, 1), (2, 2)]

/-- `all(cell is not None for row in self.game_board for cell in row)` (`:487`). -/
def isFull (b : Board) : Bool := positions.all fun p => (b p).isSome

/-- `check_winner` (`:464-491`). -/
def checkWinner (b : Board) : Option Winner :=
  match winLines.findSome? (lineWinner b) with
  | some m => some (.mark m)
  | none => if isFull b then some .draw else none

/-- Some line of `b` is complete with mark `m`. -/
def hasLine (b : Board) (m : Mark) : Bool := winLines.any fun l => lineWinner b l = some m

/-- The number of cells holding `m`. -/
def markCount (b : Board) (m : Mark) : Nat := (Finset.univ.filter fun p => b p = some m).card

/-- The number of filled cells. -/
def filledCount (b : Board) : Nat := (Finset.univ.filter fun p => b p ≠ none).card

/-! ## Lines -/

theorem tripleWinner_eq_some {a b c : Option Mark} {m : Mark} :
    tripleWinner a b c = some m ↔ a = some m ∧ b = some m ∧ c = some m := by
  unfold tripleWinner
  split_ifs with h
  · obtain ⟨rfl, rfl⟩ := h; simp
  · simp only [reduceCtorEq, false_iff]
    rintro ⟨rfl, rfl, rfl⟩
    exact h ⟨rfl, rfl⟩

/-- A line completed after `m` is placed on an empty cell was complete before, or is
    completed with `m`. -/
theorem lineWinner_updateBoard {b : Board} {p : Pos} {m m' : Mark}
    (l : Pos × Pos × Pos) (h : lineWinner (updateBoard b p m) l = some m') :
    lineWinner b l = some m' ∨ m' = m := by
  simp only [lineWinner, tripleWinner_eq_some, updateBoard_apply] at h ⊢
  obtain ⟨h1, h2, h3⟩ := h
  split_ifs at h1 h2 h3 <;> simp_all

theorem hasLine_iff {b : Board} {m : Mark} :
    hasLine b m = true ↔ ∃ l ∈ winLines, lineWinner b l = some m := by
  simp [hasLine]

theorem checkWinner_eq_none {b : Board} :
    checkWinner b = none ↔ (∀ l ∈ winLines, lineWinner b l = none) ∧ isFull b = false := by
  unfold checkWinner
  split <;> rename_i h
  · simp only [reduceCtorEq, false_iff, not_and]
    intro hl
    rw [List.findSome?_eq_none_iff.mpr hl] at h
    cases h
  · rw [List.findSome?_eq_none_iff] at h
    split_ifs with hf
    · simp [hf]
    · exact iff_of_true rfl ⟨h, by simpa using hf⟩

/-- `check_winner` names a mark only for a complete line of that mark. -/
theorem hasLine_of_checkWinner {b : Board} {m : Mark} (h : checkWinner b = some (.mark m)) :
    hasLine b m = true := by
  unfold checkWinner at h
  split at h
  · rename_i m' hm'
    cases h
    obtain ⟨l, hl, hw⟩ := List.exists_of_findSome?_eq_some hm'
    exact hasLine_iff.mpr ⟨l, hl, hw⟩
  · split_ifs at h
    cases h

/-- `X X _ / O O _ / _ _ _`: X plays `(0, 2)` and completes the top row. -/
example : checkWinner (updateBoard (fun p => if p = (0, 0) ∨ p = (0, 1) then some .X
    else if p = (1, 0) ∨ p = (1, 1) then some .O else none) (0, 2) .X) = some (.mark .X) := by
  decide

/-- Placing a mark on a board without a complete line leaves only lines of that mark. -/
theorem hasLine_updateBoard {b : Board} {p : Pos} {m m' : Mark}
    (hb : ∀ l ∈ winLines, lineWinner b l = none)
    (h : hasLine (updateBoard b p m) m' = true) : m' = m := by
  obtain ⟨l, hl, hw⟩ := hasLine_iff.mp h
  rcases lineWinner_updateBoard l hw with h' | h'
  · rw [hb l hl] at h'; cases h'
  · exact h'

/-! ## Counting cells -/

theorem mem_positions (p : Pos) : p ∈ positions := by
  revert p; decide

theorem isFull_eq_false {b : Board} : isFull b = false ↔ ∃ p, b p = none := by
  simp [isFull, mem_positions]

theorem markCount_updateBoard_self {b : Board} {p : Pos} (m : Mark) (h : b p = none) :
    markCount (updateBoard b p m) m = markCount b m + 1 := by
  have hs : Finset.univ.filter (fun q => updateBoard b p m q = some m) =
      insert p (Finset.univ.filter fun q => b q = some m) := by
    ext q; by_cases hq : q = p <;> simp [hq]
  rw [markCount, hs, Finset.card_insert_of_not_mem (by simp [h])]
  rfl

theorem markCount_updateBoard_other {b : Board} {p : Pos} {m m' : Mark} (h : b p = none)
    (hm : m' ≠ m) : markCount (updateBoard b p m) m' = markCount b m' := by
  unfold markCount
  congr 1; ext q; by_cases hq : q = p <;> simp [hq, h, Ne.symm hm]

theorem filledCount_updateBoard {b : Board} {p : Pos} (m : Mark) (h : b p = none) :
    filledCount (updateBoard b p m) = filledCount b + 1 := by
  have hs : Finset.univ.filter (fun q => updateBoard b p m q ≠ none) =
      insert p (Finset.univ.filter fun q => b q ≠ none) := by
    ext q; by_cases hq : q = p <;> simp [hq]
  rw [filledCount, hs, Finset.card_insert_of_not_mem (by simp [h])]
  rfl

/-- Nine filled cells make a full board. -/
theorem isFull_of_filledCount {b : Board} (h : filledCount b = 9) : isFull b = true := by
  have hall := Finset.filter_card_eq (h.trans rfl)
  simpa [isFull, Option.isSome_iff_ne_none] using fun p _ => hall p (Finset.mem_univ p)

/-- A complete line holds three cells of its mark. -/
theorem three_le_markCount {b : Board} {m : Mark} (h : hasLine b m = true) :
    3 ≤ markCount b m := by
  obtain ⟨l, hl, hw⟩ := hasLine_iff.mp h
  have hd : l.1 ≠ l.2.1 ∧ l.1 ≠ l.2.2 ∧ l.2.1 ≠ l.2.2 := by
    simp only [winLines, List.mem_cons, List.mem_singleton, List.not_mem_nil, or_false] at hl
    rcases hl with rfl | rfl | rfl | rfl | rfl | rfl | rfl | rfl <;> decide
  have hcard : ({l.1, l.2.1, l.2.2} : Finset Pos).card = 3 := by
    rw [Finset.card_insert_of_not_mem (by simp [hd.1, hd.2.1]), Finset.card_pair hd.2.2]
  obtain ⟨h1, h2, h3⟩ := tripleWinner_eq_some.mp hw
  have hsub : {l.1, l.2.1, l.2.2} ⊆ Finset.univ.filter fun p => b p = some m := by
    intro p hp
    simp only [Finset.mem_insert, Finset.mem_singleton] at hp
    rcases hp with rfl | rfl | rfl <;> simpa
  exact hcard ▸ Finset.card_le_card hsub

@[simp] theorem filledCount_emptyBoard : filledCount emptyBoard = 0 := rfl

@[simp] theorem markCount_emptyBoard (m : Mark) : markCount emptyBoard m = 0 := rfl

end KdappCoordinator
