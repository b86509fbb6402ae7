import Logid.Features.Proofs.Switching
import Logid.Features.WheelMode

/-!
# Agreement of the wheel mode

A byte is described by the options whose bits it has; each call of the feature moves `_mode` and `_mask`
from the description of the old configuration to that of the new one.
-/

namespace Logid.Features

open Actions (EventCodes)
open Backend.Hidpp20 (Hardware)

/-! ## Bits -/

theorem bitOf_eq_one_iff {byte : UInt8} {bit : Fin 8} :
    bitOf byte bit = 1 ↔ byte.toBitVec.getLsbD bit = true := by
  rw [bitOf]
  cases byte.toBitVec.getLsbD bit <;> simp

namespace ModeOption

theorem index_injective {a b : ModeOption} (h : a.index = b.index) : a = b := by
  cases a <;> cases b <;> first | rfl | cases h

/-- An option is one bit. -/
theorem getLsbD_bit (option : ModeOption) (bit : Fin 8) :
    option.bit.toBitVec.getLsbD bit = decide (option.index = bit) := by
  revert bit
  cases option <;> decide

end ModeOption

namespace WheelMode.BitsOf

variable {byte : UInt8} {p q : ModeOption → Prop}

theorem congr (h : BitsOf byte p) (hpq : ∀ option, p option ↔ q option) : BitsOf byte q := by
  intro bit
  rw [h bit]
  simp only [hpq]

theorem zero : BitsOf 0 fun _ => False := by
  intro bit
  rw [bitOf_eq_one_iff]
  simp

theorem set (h : BitsOf byte p) (option : ModeOption) :
    BitsOf (byte ||| option.bit) fun o => o = option ∨ p o := by
  intro bit
  rw [bitOf_eq_one_iff, UInt8.toBitVec_or, BitVec.getLsbD_or, Bool.or_eq_true,
    ← bitOf_eq_one_iff, h bit, ModeOption.getLsbD_bit, decide_eq_true_eq]
  constructor
  · rintro (⟨o, ho, hp⟩ | hbit)
    · exact ⟨o, ho, .inr hp⟩
    · exact ⟨option, hbit, .inl rfl⟩
  · rintro ⟨o, ho, rfl | hp⟩
    · exact .inr ho
    · exact .inl ⟨o, ho, hp⟩

theorem clear (h : BitsOf byte p) (option : ModeOption) :
    BitsOf (byte &&& ~~~option.bit) fun o => o ≠ option ∧ p o := by
  intro bit
  rw [bitOf_eq_one_iff, UInt8.toBitVec_and, UInt8.toBitVec_not, BitVec.getLsbD_and,
    BitVec.getLsbD_not, ModeOption.getLsbD_bit, decide_eq_true bit.isLt, Bool.true_and,
    Bool.and_eq_true, ← bitOf_eq_one_iff, h bit, Bool.not_eq_true', decide_eq_false_iff_not]
  constructor
  · rintro ⟨⟨o, ho, hp⟩, hbit⟩
    exact ⟨o, ho, fun heq => hbit (heq ▸ ho), hp⟩
  · rintro ⟨o, ho, hne, hp⟩
    exact ⟨⟨o, ho, hp⟩, fun hbit => hne (ModeOption.index_injective (ho.trans hbit.symm))⟩

end WheelMode.BitsOf

namespace WheelMode

/-- `_mode` and `_mask` are those of the values of the options. -/
structure Describes (m : ModeMask) (value : ModeOption → Option Bool) : Prop where
  mask : BitsOf m.mask fun option => (value option).isSome
  mode : BitsOf m.mode fun option => value option = some true

theorem Describes.congr {m : ModeMask} {value value' : ModeOption → Option Bool}
    (h : Describes m value) (heq : ∀ option, value option = value' option) :
    Describes m value' := by
  obtain rfl : value = value' := funext heq
  exact h

/-- An option gets a value, as `SetHires`, `SetInvert` and `SetTarget` do it. -/
theorem Describes.setOption {m : ModeMask} {value : ModeOption → Option Bool}
    (h : Describes m value) (option : ModeOption) (v : Bool) :
    Describes (m.setOption option v) (Function.update value option (some v)) := by
  constructor
  · refine (h.mask.set option).congr ?_
    intro o
    by_cases ho : o = option
    · subst ho
      simp
    · simp [ho]
  · cases v with
    | true =>
      refine (h.mode.set option).congr ?_
      intro o
      by_cases ho : o = option
      · subst ho
        simp
      · simp [ho]
    | false =>
      refine (h.mode.clear option).congr ?_
      intro o
      by_cases ho : o = option
      · subst ho
        simp
      · simp [ho]

/-- `_makeConfig` adds an option that has no value yet. -/
theorem Describes.addOption {m : ModeMask} {value : ModeOption → Option Bool}
    (h : Describes m value) (conf : Config.HiresScroll) {option : ModeOption}
    (hnone : value option = none) :
    Describes (ModeMask.addOption conf option m)
      (Function.update value option (option.get conf)) := by
  rw [ModeMask.addOption]
  split
  next hget => rwa [hget, ← hnone, Function.update_eq_self]
  next v hget =>
    rw [hget]
    refine ⟨(h.setOption option v).mask, ?_⟩
    cases v with
    | true => exact (h.setOption option true).mode
    | false =>
      refine h.mode.congr ?_
      intro o
      by_cases ho : o = option
      · subst ho
        simp [hnone]
      · simp [ho]

/-- The bit that the boolean form sets first is set again for its option. -/
theorem makeConfig_some (value : Bool ⊕ Config.HiresScroll) :
    ModeMask.makeConfig (some value) =
      ModeMask.addOption (Config.HiresScroll.adopt value) .target
        (ModeMask.addOption (Config.HiresScroll.adopt value) .invert
          (ModeMask.addOption (Config.HiresScroll.adopt value) .hires {})) := by
  cases value with
  | inl hires => cases hires <;> rfl
  | inr conf => rfl

theorem describes_makeConfig (config : HiresEntry) :
    Describes (ModeMask.makeConfig config) fun option =>
      option.configured (HiresScroll.adoptEntry config) := by
  have hempty : Describes {} fun _ => none :=
    ⟨BitsOf.zero.congr (by simp), BitsOf.zero.congr (by simp)⟩
  cases config with
  | none =>
    apply hempty.congr
    intro option
    cases option <;> rfl
  | some value =>
    let conf := Config.HiresScroll.adopt value
    have hhires := @Describes.addOption _ _ hempty conf .hires rfl
    have hinvert := @Describes.addOption _ _ hhires conf .invert rfl
    have htarget := @Describes.addOption _ _ hinvert conf .target rfl
    rw [makeConfig_some]
    apply htarget.congr
    intro option
    cases option <;> rfl

/-! ## The calls -/

/-- What every call keeps; the boolean form is gone after `_makeConfig`. -/
structure Inv (s : WheelMode) : Prop where
  describes : Describes s.modeMask fun option => option.configured s.entry
  isObject : ∀ hires, s.entry ≠ some (.inl hires)

theorem Inv.coherent {s : WheelMode} (h : Inv s) : s.Coherent :=
  ⟨h.describes.mask, h.describes.mode⟩

theorem adoptEntry_isObject (config : HiresEntry) (hires : Bool) :
    HiresScroll.adoptEntry config ≠ some (.inl hires) := by
  cases config <;> simp [HiresScroll.adoptEntry]

theorem configured_set (entry : HiresEntry) (option : ModeOption) (v : Bool) (o : ModeOption) :
    Function.update (fun o => ModeOption.configured entry o) option (some v) o =
      o.configured (some (.inr (option.set (HiresScroll.parentConfig entry) v))) := by
  cases option <;> cases o <;> rfl

/-- The gestures are no options of the mode. -/
theorem configured_setGesture {codes : EventCodes} {multiplier : UInt8} {turn : Turn}
    {type : String} {entry : HiresEntry} {h h' : HiresScroll} {conf : Config.HiresScroll}
    {outcome : HiresScroll.Outcome}
    (hcall : h.setGesture codes multiplier turn type entry = some (conf, h', outcome))
    (option : ModeOption) :
    option.configured entry = option.configured (some (.inr conf)) := by
  have hset : ∀ value, option.configured entry =
      option.get (HiresScroll.setEntry (HiresScroll.parentConfig entry) value turn) := by
    intro value
    cases turn <;> cases option <;> rfl
  simp only [HiresScroll.setGesture] at hcall
  split at hcall
  · cases hcall
    exact hset _
  · split at hcall
    · split at hcall
      · cases hcall
        exact hset _
      · cases hcall
        exact hset _
    · cases hcall

theorem Inv.step {codes : EventCodes} {multiplier : UInt8} {config : HiresEntry} {hw : Hardware}
    {s t : WheelMode} {a : Label} (hs : Inv s)
    (h : (machine codes multiplier config hw).step s a = some t) : Inv t := by
  cases a with
  | setProfile config =>
    cases h
    exact ⟨describes_makeConfig config, adoptEntry_isObject config⟩
  | setOption option value answers =>
    cases h
    have hset : Inv { s with
        entry := some (.inr (option.set (HiresScroll.parentConfig s.entry) value))
        modeMask := s.modeMask.setOption option value } :=
      ⟨(hs.describes.setOption option value).congr (configured_set s.entry option value), by simp⟩
    cases answers with
    | true => exact ⟨hset.describes, hset.isObject⟩
    | false => exact hset
  | setGesture turn type =>
    obtain ⟨⟨conf, gestures, outcome⟩, hcall, rfl⟩ := Option.map_eq_some_iff.mp h
    exact ⟨hs.describes.congr (configured_setGesture hcall), by simp⟩
  | configure =>
    cases h
    exact ⟨hs.describes, hs.isObject⟩
  | deviceMode mode =>
    cases h
    exact ⟨hs.describes, hs.isObject⟩

/-- `configure` makes the options of the device those of the configuration. -/
theorem Describes.configured {m : ModeMask} {entry : HiresEntry}
    (h : Describes m fun option => option.configured entry) (hw : Hardware) :
    Configured entry hw (m.configure hw) where
  option := by
    intro option value hvalue
    have hmask : bitOf m.mask option.index = 1 :=
      (h.mask _).mpr ⟨option, rfl, by simp [hvalue]⟩
    refine (bitOf_masked _ _ _ _).trans ?_
    rw [if_pos hmask]
    cases value with
    | true => exact (h.mode _).mpr ⟨option, rfl, hvalue⟩
    | false =>
      have hnot : ¬bitOf m.mode option.index = 1 := by
        intro hbit
        obtain ⟨o, ho, htrue⟩ := (h.mode _).mp hbit
        rw [ModeOption.index_injective ho, hvalue] at htrue
        cases htrue
      rw [bitOf_eq_one_iff, Bool.not_eq_true] at hnot
      rw [bitOf, hnot]
  other := by
    intro bit hnone
    have hmask : ¬bitOf m.mask bit = 1 := by
      intro hbit
      obtain ⟨option, hindex, hsome⟩ := (h.mask _).mp hbit
      simp only [hnone option hindex, Option.isSome_none, Bool.false_eq_true] at hsome
    refine (bitOf_masked _ _ _ _).trans ?_
    rw [if_neg hmask]
    rfl
  frame := rfl

/-- The options determine both bytes. -/
theorem Describes.unique {m n : ModeMask} {value : ModeOption → Option Bool}
    (hm : Describes m value) (hn : Describes n value) : m = n := by
  have hbyte : ∀ {a b : UInt8} {p : ModeOption → Prop}, BitsOf a p → BitsOf b p → a = b := by
    intro a b p ha hb
    apply bitOf_injective
    intro bit
    have hiff := (ha bit).trans (hb bit).symm
    rw [bitOf_eq_one_iff, bitOf_eq_one_iff] at hiff
    rw [bitOf, bitOf, Bool.eq_iff_iff.mpr hiff]
  have hmask := hbyte hm.mask hn.mask
  have hmode := hbyte hm.mode hn.mode
  cases m
  cases n
  rw [ModeMask.mk.injEq]
  exact ⟨hmode, hmask⟩

theorem addOption_eq (conf : Config.HiresScroll) (option : ModeOption) (m : ModeMask) :
    ModeMask.addOption conf option m =
      { mode := m.mode ||| (modeBit (option.get conf) option.bit).2
        mask := m.mask ||| (modeBit (option.get conf) option.bit).1 } := by
  rw [ModeMask.addOption]
  split
  next hget => simp [hget, modeBit]
  next value hget =>
    rw [hget]
    cases value <;> simp [modeBit]

theorem makeConfig_eq_maskMode (config : HiresEntry) :
    ModeMask.makeConfig config =
      { mode := (HiresScroll.maskMode config).2, mask := (HiresScroll.maskMode config).1 } := by
  cases config with
  | none => rfl
  | some value =>
    simp only [makeConfig_some, addOption_eq, HiresScroll.maskMode, UInt8.zero_or]
    rfl

/-- Calls that edit the options lead to the bytes that `_makeConfig` makes of the configuration, so
what they write is what a switch to it writes. -/
theorem Inv.configure_eq {s : WheelMode} (hs : Inv s) :
    s.configure.hardware = HiresScroll.configure s.entry s.hardware := by
  have hsame : s.modeMask = ModeMask.makeConfig s.entry := by
    apply hs.describes.unique
    apply (describes_makeConfig s.entry).congr
    intro option
    rcases hentry : s.entry with _ | hires | conf
    · rfl
    · exact absurd hentry (hs.isObject hires)
    · cases option <;> rfl
  rw [configure, hsame, makeConfig_eq_maskMode]
  rfl

/-- In every state that the calls reach, the mode and the mask are those of the configuration, and
`configure` makes the device agree with it, whatever its mode was. -/
theorem always_agrees (codes : EventCodes) (multiplier : UInt8) (config : HiresEntry)
    (hw : Hardware) (as : List Label) :
    (machine codes multiplier config hw).Always Agrees (machine codes multiplier config hw).init
      as := by
  apply Machine.always_of_invariant (I := Inv)
  · intro s hs
    exact ⟨hs.coherent, hs.describes.configured⟩
  · intro s a t hs h
    exact hs.step h
  · exact ⟨describes_makeConfig config, adoptEntry_isObject config⟩

end WheelMode

end Logid.Features
