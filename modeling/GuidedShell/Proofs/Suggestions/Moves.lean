import GuidedShell.Proofs.Suggestions.Selection
import Mathlib.Data.Int.ModEq

/-! Moves of the selection count rows, forward and backward, round both ends of the list. -/
namespace GuidedShell.Suggestions

/-- The one of `n` rows that is as far from the first as `z` says, round the ends. -/
def rowAt (n : Nat) (z : ℤ) : Nat := (z % n).toNat

theorem natCast_rowAt {n : Nat} (hn : 0 < n) (z : ℤ) : (rowAt n z : ℤ) = z % n :=
  Int.toNat_of_nonneg (Int.emod_nonneg z (by omega))

theorem rowAt_of_lt {n i : Nat} (hi : i < n) : rowAt n i = i := by
  have hmod : ((i : ℤ) % n) = i := Int.emod_eq_of_lt (by omega) (by omega)
  rw [rowAt, hmod, Int.toNat_natCast]

theorem rowAt_next {n : Nat} (hn : 0 < n) (z : ℤ) : (rowAt n z + 1) % n = rowAt n (z + 1) := by
  have hcast : (((rowAt n z + 1) % n : Nat) : ℤ) = rowAt n (z + 1) := by
    rw [Int.natCast_mod, Int.natCast_add, natCast_rowAt hn, natCast_rowAt hn, Int.natCast_one,
      Int.emod_add_emod]
  exact_mod_cast hcast

/-- The row before is found by going forward all the way but one, which never falls below zero. -/
theorem rowAt_previous {n : Nat} (hn : 0 < n) (z : ℤ) :
    (rowAt n z + n - 1) % n = rowAt n (z - 1) := by
  have hround : ((rowAt n z + n - 1 : Nat) : ℤ) = rowAt n z + (n - 1) := by omega
  have hcast : (((rowAt n z + n - 1) % n : Nat) : ℤ) = rowAt n (z - 1) := by
    calc (((rowAt n z + n - 1) % n : Nat) : ℤ)
        = (z % n + (n - 1)) % n := by rw [Int.natCast_mod, hround, natCast_rowAt hn]
      _ = (z - 1 + n) % n := by
        rw [Int.emod_add_emod]
        congr 1
        omega
      _ = rowAt n (z - 1) := by rw [Int.add_emod_right, natCast_rowAt hn]
  exact_mod_cast hcast

/-- How far the moves lead forward, taken together. -/
def net (moves : List Move) : ℤ := moves.count .forward - moves.count .backward

@[simp] theorem net_nil : net [] = 0 := rfl

@[simp] theorem net_forward (moves : List Move) : net (.forward :: moves) = net moves + 1 := by
  simp [net]
  omega

@[simp] theorem net_backward (moves : List Move) : net (.backward :: moves) = net moves - 1 := by
  simp [net]
  omega

/-- The list after these moves. -/
def moveAll (g : Suggestions) (moves : List Move) : Suggestions := g.actAll (moves.map .move)

@[simp] theorem moveAll_nil (g : Suggestions) : g.moveAll [] = g := rfl

@[simp] theorem moveAll_cons (g : Suggestions) (m : Move) (moves : List Move) :
    g.moveAll (m :: moves) = (g.move m).moveAll moves := rfl

@[simp] theorem shown_moveAll (g : Suggestions) (moves : List Move) :
    (g.moveAll moves).shown = g.shown := by
  induction moves generalizing g with
  | nil => rfl
  | cons m ms ih => rw [moveAll_cons, ih, shown_move]

theorem sound_moveAll {g : Suggestions} (h : g.Sound) (moves : List Move) : (g.moveAll moves).Sound := by
  induction moves generalizing g with
  | nil => exact h
  | cons m ms ih => exact ih (sound_move h m)

theorem moveAll_of_empty {g : Suggestions} (h : g.shown.length = 0) (moves : List Move) :
    g.moveAll moves = g := by
  induction moves with
  | nil => rfl
  | cons m ms ih =>
    have hmove : g.move m = g := by simp [move, h]
    rw [moveAll_cons, hmove, ih]

section Rows

variable {g : Suggestions} (hn : 0 < g.shown.length)
include hn

theorem selected_move {z : ℤ} (h : g.selected = some (rowAt g.shown.length z)) (m : Move) :
    (g.move m).selected = some (rowAt g.shown.length (z + net [m])) := by
  have hne : g.shown.length ≠ 0 := by omega
  cases m with
  | forward => simp [move, hne, h, rowAt_next hn]
  | backward => simp [move, hne, h, rowAt_previous hn, Int.sub_eq_add_neg]

/-- With no row selected, a move forward leads where it would from the last row, and a move backward
where it would from the first. -/
theorem selected_move_none (h : g.selected = none) :
    (g.move .forward).selected = some (rowAt g.shown.length 0) ∧
      (g.move .backward).selected = some (rowAt g.shown.length (-1)) := by
  have hne : g.shown.length ≠ 0 := by omega
  have hfirst : rowAt g.shown.length 0 = 0 := rowAt_of_lt hn
  have hlast : rowAt g.shown.length (-1) = g.shown.length - 1 := by
    have hprevious := rowAt_previous hn 0
    rw [hfirst] at hprevious
    rw [← Int.zero_sub, ← hprevious, Nat.zero_add]
    exact Nat.mod_eq_of_lt (by omega)
  constructor
  · simp [move, hne, h, hfirst]
  · simp [move, hne, h, hlast]

theorem selected_moveAll {z : ℤ} (h : g.selected = some (rowAt g.shown.length z))
    (moves : List Move) :
    (g.moveAll moves).selected = some (rowAt g.shown.length (z + net moves)) := by
  induction moves generalizing g z with
  | nil => simpa using h
  | cons m ms ih =>
    have hstep := selected_move hn h m
    have hsum : z + net [m] + net ms = z + net (m :: ms) := by
      cases m <;> simp <;> omega
    have hrest := ih (g := g.move m) (by simpa using hn) (z := z + net [m]) (by simpa using hstep)
    rw [shown_move, hsum] at hrest
    exact hrest

end Rows

end GuidedShell.Suggestions
