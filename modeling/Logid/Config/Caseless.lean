import Mathlib.Data.List.Forall2
import Mathlib.Tactic.SplitIfs
import Logid.Config.Map

/-!
# The comparator on the bytes of a string

`less_caseless<std::string>` (`config/map.h:35-45`) as it compares the `char`s of two strings, whatever
they encode. A `char` is signed, and in the C locale `tolower` changes the letters of ASCII alone; it
looks a negative number up in its table too, where it finds the byte, but for -1, which is `EOF`.
-/

namespace Logid.Config

/-- `tolower` on the value of a `char`. -/
def tolower (c : Int8) : Int :=
  if 65 ≤ c.toInt ∧ c.toInt ≤ 90 then c.toInt + 32
  else if c.toInt < -1 then c.toInt + 256
  else c.toInt

def lessCaselessBytes : List Int8 → List Int8 → Bool
  | a :: as, b :: bs =>
    if tolower a ≠ tolower b then decide (tolower a < tolower b) else lessCaselessBytes as bs
  | [], bs => !bs.isEmpty
  | _ :: _, [] => false

/-- One `char` is the other, or the same letter of ASCII in the other case. -/
def SameLetter (a b : Int8) : Prop :=
  a = b ∨ (65 ≤ a.toInt ∧ a.toInt ≤ 90 ∧ b.toInt = a.toInt + 32) ∨
    (65 ≤ b.toInt ∧ b.toInt ≤ 90 ∧ a.toInt = b.toInt + 32)

/-- The bytes are the same up to the case of ASCII letters. -/
def EqualUpToCase (as bs : List Int8) : Prop := List.Forall₂ SameLetter as bs

theorem lessCaselessBytes_eq : lessCaselessBytes = LexLess.less tolower := by
  funext as bs
  fun_induction lessCaselessBytes as bs with
  | case1 a as b bs h => rw [LexLess.less, if_pos h]
  | case2 a as b bs h ih => rw [LexLess.less, if_neg h, ih]
  | case3 bs => rfl
  | case4 a as => rfl

theorem tolower_eq_iff {a b : Int8} : tolower a = tolower b ↔ SameLetter a b := by
  have hlow := a.le_toInt
  have hhigh := a.toInt_lt
  have hlow' := b.le_toInt
  have hhigh' := b.toInt_lt
  have heq : a = b ↔ a.toInt = b.toInt := Int8.toInt_inj.symm
  rw [SameLetter, heq, tolower, tolower]
  split_ifs <;> omega

theorem map_tolower_eq_iff {as bs : List Int8} :
    as.map tolower = bs.map tolower ↔ EqualUpToCase as bs := by
  rw [← List.forall₂_eq_eq_eq, List.forall₂_map_left_iff, List.forall₂_map_right_iff, EqualUpToCase]
  simp only [tolower_eq_iff]

end Logid.Config
