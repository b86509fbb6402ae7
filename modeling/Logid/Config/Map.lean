import Mathlib.Data.Char
import Mathlib.Data.String.Basic
import Logid.Misc.LexLess

/-!
# The comparator of case-insensitive maps

Rendering of `less_caseless` (`config/map.h`). It is the lexicographic order of the strings in lower
case, which makes it a comparator of maps.
-/

namespace Logid.Config

/-- The loop of `less_caseless::operator()`. -/
def lessCaselessLoop : List Char → List Char → Bool
  | a :: as, b :: bs =>
    if a.toLower ≠ b.toLower then decide (a.toLower < b.toLower) else lessCaselessLoop as bs
  | [], bs => !bs.isEmpty
  | _ :: _, [] => false

theorem lessCaselessLoop_eq_less : lessCaselessLoop = LexLess.less Char.toLower := by
  funext as bs
  fun_induction lessCaselessLoop as bs with
  | case1 a as b bs h => rw [LexLess.less, if_pos h]
  | case2 a as b bs h ih => rw [LexLess.less, if_neg h, ih]
  | case3 bs => rfl
  | case4 a as => rfl

theorem lessCaselessLoop_eq (as bs : List Char) :
    lessCaselessLoop as bs = decide (as.map Char.toLower < bs.map Char.toLower) := by
  rw [lessCaselessLoop_eq_less, LexLess.less_eq]

def lessCaseless : KeyLess String where
  lt a b := lessCaselessLoop a.toList b.toList
  irrefl a := by simp [lessCaselessLoop_eq]
  trans := by
    intro a b c hab hbc
    simp only [lessCaselessLoop_eq, decide_eq_true_eq] at hab hbc ⊢
    exact lt_trans hab hbc

theorem lessCaseless_weak : lessCaseless.Weak := by
  intro a b hab hba c
  simp only [lessCaseless, lessCaselessLoop_eq, decide_eq_false_iff_not, not_lt] at hab hba ⊢
  have heq := le_antisymm hba hab
  rw [heq]
  exact ⟨rfl, rfl⟩

end Logid.Config
