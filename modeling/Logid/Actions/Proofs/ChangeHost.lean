import Logid.Actions.ChangeHost
import Mathlib.Data.List.TakeWhile

/-!
# The host of a release

On a count that is not zero the two remainders are one modulo, so what is asked for is a host of the
device. The one number that the subtraction overflows on is the least `int`, and `SetHost` accepts it.
-/

namespace Logid.Actions.ChangeHostAction

open Backend.Hidpp20 (ChangeHost HostInfo)

/-! ## What SetHost accepts -/

/-- What may stand before the digits of a number. -/
def signs : List (List Char) := [[], ['+'], ['-']]

theorem mem_signs {sign : List Char} : sign ∈ signs ↔ sign = [] ∨ sign = ['+'] ∨ sign = ['-'] := by
  simp [signs]

theorem splitSign_spec (s : List Char) :
    ∃ sign ∈ signs, s = sign ++ (splitSign s).2 ∧ (splitSign s).1 = decide (sign = ['-']) := by
  unfold splitSign
  split
  next s => exact ⟨['-'], mem_signs.mpr (.inr (.inr rfl)), rfl, rfl⟩
  next s => exact ⟨['+'], mem_signs.mpr (.inr (.inl rfl)), rfl, rfl⟩
  next => exact ⟨[], mem_signs.mpr (.inl rfl), rfl, rfl⟩

theorem splitSign_append {sign digits : List Char} (hsign : sign ∈ signs)
    (hdigits : ∀ c ∈ digits, c.isDigit = true) :
    splitSign (sign ++ digits) = (decide (sign = ['-']), digits) := by
  obtain rfl | rfl | rfl := mem_signs.mp hsign
  · unfold splitSign
    rw [List.nil_append]
    split
    next s => exact absurd (hdigits '-' List.mem_cons_self) (by decide)
    next s => exact absurd (hdigits '+' List.mem_cons_self) (by decide)
    next => rfl
  · rfl
  · rfl

theorem dropWhile_blanks {blanks s : List Char} (hblanks : ∀ c ∈ blanks, isSpace c = true)
    (hs : ∀ c ∈ s, isSpace c = false) : (blanks ++ s).dropWhile isSpace = s := by
  rw [List.dropWhile_append_of_pos hblanks]
  cases s with
  | nil => rfl
  | cons c s => exact List.dropWhile_cons_of_neg (by simp [hs c List.mem_cons_self])

theorem not_isSpace_of_isDigit {c : Char} (h : c.isDigit = true) : isSpace c = false := by
  have hlow : '0' ≤ c := by
    simp only [Char.isDigit, Bool.and_eq_true, decide_eq_true_eq] at h
    exact h.1
  refine decide_eq_false ?_
  rintro (rfl | ⟨-, hblank⟩)
  · exact absurd hlow (by decide)
  · exact absurd (hlow.trans hblank) (by decide)

theorem not_isSpace_of_mem {sign digits : List Char} (hsign : sign ∈ signs)
    (hdigits : ∀ c ∈ digits, c.isDigit = true) : ∀ c ∈ sign ++ digits, isSpace c = false := by
  intro c hc
  rcases List.mem_append.mp hc with hc | hc
  · obtain rfl | rfl | rfl := mem_signs.mp hsign
    · cases hc
    · obtain rfl := List.mem_singleton.mp hc
      rfl
    · obtain rfl := List.mem_singleton.mp hc
      rfl
  · exact not_isSpace_of_isDigit (hdigits c hc)

/-- `SetHost` reads a number exactly from blanks, a sign or none, and the digits of a value that is an
`int`. -/
theorem parseHost_eq_some_iff {host : String} {k : Int32} :
    parseHost host = some k ↔
      ∃ blanks, ∃ sign ∈ signs, ∃ digits, host.toList = blanks ++ (sign ++ digits) ∧
        (∀ c ∈ blanks, isSpace c = true) ∧ (∀ c ∈ digits, c.isDigit = true) ∧ digits ≠ [] ∧
          k.toInt = if sign = ['-'] then -(digitsValue digits : Int) else digitsValue digits := by
  rw [parseHost, stoi]
  constructor
  · intro h
    obtain ⟨sign, hsign, hsplit, hneg⟩ := splitSign_spec (host.toList.dropWhile isSpace)
    generalize splitSign (host.toList.dropWhile isSpace) = split at h hsplit hneg
    obtain ⟨negative, unsigned⟩ := split
    dsimp only at h hsplit hneg
    subst hneg
    have htext : host.toList = host.toList.takeWhile isSpace ++ (sign ++ unsigned) := by
      rw [← hsplit, List.takeWhile_append_dropWhile]
    split at h
    next parsed consumed hstoi =>
      rw [Option.ite_none_right_eq_some, Option.some_inj, Prod.mk.injEq] at hstoi
      rw [Option.ite_none_left_eq_some, not_not, Option.some_inj] at h
      obtain ⟨⟨hne, hfits⟩, hparsed, hconsumed⟩ := hstoi
      obtain ⟨hall, rfl⟩ := h
      have hrest : unsigned.dropWhile Char.isDigit = [] := by
        have hlength := congrArg List.length htext
        have hshort := unsigned.length_dropWhile_le Char.isDigit
        simp only [List.length_append] at hlength
        rw [← List.length_eq_zero_iff]
        omega
      have hdigits : unsigned.takeWhile Char.isDigit = unsigned := by
        rw [← List.append_nil (unsigned.takeWhile Char.isDigit), ← hrest,
          List.takeWhile_append_dropWhile]
      rw [hdigits] at hne hfits hparsed
      refine ⟨_, sign, hsign, unsigned, htext, fun c hc => List.mem_takeWhile_imp hc,
        List.dropWhile_eq_nil_iff.mp hrest, hne, ?_⟩
      simp only [decide_eq_true_eq] at hfits hparsed
      rw [← hparsed]
      exact Int32.toInt_ofInt_of_le hfits.1 (Int.lt_add_one_of_le hfits.2)
    next => cases h
  · rintro ⟨blanks, sign, hsign, digits, htext, hblanks, hdigits, hne, hk⟩
    have hfits : FitsInt32 k.toInt := ⟨Int32.le_toInt k, Int32.toInt_le k⟩
    rw [htext, dropWhile_blanks hblanks (not_isSpace_of_mem hsign hdigits),
      splitSign_append hsign hdigits]
    have htake : digits.takeWhile Char.isDigit = digits := List.takeWhile_eq_self_iff.mpr hdigits
    have hdrop : digits.dropWhile Char.isDigit = [] := List.dropWhile_eq_nil_iff.mpr hdigits
    simp only [htake, hdrop, decide_eq_true_eq, ← hk]
    rw [if_pos ⟨hne, hfits⟩]
    simp

/-! ## The remainders -/

theorem int_eq_some {n : Int} (h : FitsInt32 n) : int n = some n := if_pos h

/-- The two remainders of the source are the modulo that is not negative. -/
theorem wrapHost_eq {next count : Int} (hpos : 0 < count) (hcount : count ≤ 255) :
    wrapHost next count = some (next % count) := by
  have hlow : -count < next.tmod count := Int.lt_tmod_of_pos next hpos
  have hhigh : next.tmod count < count := Int.tmod_lt_of_pos next hpos
  rw [wrapHost, int_eq_some (by unfold FitsInt32; omega), Option.map_some]
  calc
    some ((next.tmod count + count).tmod count) = some ((next.tmod count + count) % count) := by
      rw [Int.tmod_eq_emod_of_nonneg (by omega)]
    _ = some (next.tmod count % count) := by rw [Int.add_emod_right]
    _ = some (next % count) := by rw [Int.tmod_def, Int.sub_mul_emod_self_left]

theorem nextHost_next (info : HostInfo) :
    nextHost (.inr "next") info = some (info.currentHost.toNat + 1 : Int) := by
  have hcurrent := info.currentHost.toNat_lt
  have hfits : FitsInt32 (info.currentHost.toNat + 1 : Int) := by
    unfold FitsInt32
    omega
  rw [nextHost, if_pos rfl, int_eq_some hfits]

theorem nextHost_prev {prev : String} (hprev : prev = "prev" ∨ prev = "previous") (info : HostInfo) :
    nextHost (.inr prev) info = some (info.currentHost.toNat - 1 : Int) := by
  have hcurrent := info.currentHost.toNat_lt
  have hne : prev ≠ "next" := by
    rintro rfl
    exact absurd hprev (by decide)
  have hfits : FitsInt32 (info.currentHost.toNat - 1 : Int) := by
    unfold FitsInt32
    omega
  rw [nextHost, if_neg hne, if_pos hprev, int_eq_some hfits]

theorem nextHost_number {k : Int32} (hk : k ≠ Int32.minValue) (info : HostInfo) :
    nextHost (.inl k) info = some (k.toInt - 1) := by
  have hlow : -2147483648 ≤ k.toInt := Int32.le_toInt k
  have hhigh : k.toInt ≤ 2147483647 := Int32.toInt_le k
  have hmin : k.toInt ≠ -2147483648 := fun h => hk (Int32.toInt_inj.mp h)
  have hfits : FitsInt32 (k.toInt - 1) := by
    unfold FitsInt32
    omega
  rw [nextHost, int_eq_some hfits]

/-- The subtraction overflows on the least number. -/
theorem nextHost_minValue (info : HostInfo) : nextHost (.inl Int32.minValue) info = none := by
  have hfits : ¬FitsInt32 (Int32.minValue.toInt - 1) := by decide
  rw [nextHost, int, if_neg hfits]

/-- What is computed from any other setting depends on the current host alone. -/
theorem exists_nextHost {host : Int32 ⊕ String} (hhost : host ≠ .inl Int32.minValue)
    (current : UInt8) :
    ∃ next, (∀ info : HostInfo, info.currentHost = current → nextHost host info = some next) ∧
      ∀ k, host = .inl k → next = k.toInt - 1 := by
  cases host with
  | inl k =>
    refine ⟨k.toInt - 1, fun info _ => nextHost_number (fun h => hhost (h ▸ rfl)) info, ?_⟩
    rintro _ ⟨⟩
    rfl
  | inr name =>
    by_cases hnext : name = "next"
    · subst hnext
      exact ⟨_, fun info hinfo => hinfo ▸ nextHost_next info, nofun⟩
    · by_cases hprev : name = "prev" ∨ name = "previous"
      · exact ⟨_, fun info hinfo => hinfo ▸ nextHost_prev hprev info, nofun⟩
      · refine ⟨current.toNat, fun info hinfo => ?_, nofun⟩
        rw [nextHost, if_neg hnext, if_neg hprev, hinfo]

/-! ## A release -/

theorem setHost_defined {feature : ChangeHost} (hcount : feature.hostCount ≠ 0)
    (reread : List UInt8) (host : UInt8) :
    ∃ result, feature.setHost reread host = some (result, feature) := by
  rw [ChangeHost.setHost, if_neg hcount]
  by_cases h : host ≥ feature.hostCount
  · exact ⟨_, if_pos h⟩
  · exact ⟨_, if_neg h⟩

variable (feature : ChangeHost) (reply : HostReply) (reread : List UInt8)

theorem HostReply.count_pos : 0 < reply.count.toNat := UInt8.le_iff_toNat_le.mp reply.counted

theorem HostReply.count_ne_zero : reply.count ≠ 0 := by
  intro h
  have hpos := reply.count_pos
  rw [h] at hpos
  exact absurd hpos (by decide)

theorem getHostInfo_bytes :
    ∃ info feature', feature.getHostInfo reply.bytes = some (info, feature') ∧
      info.hostCount = reply.count ∧ info.currentHost = reply.current ∧ feature'.hostCount ≠ 0 := by
  obtain ⟨flags, rest, htail⟩ := List.exists_cons_of_ne_nil reply.flagged
  rw [HostReply.bytes, htail]
  refine ⟨_, _, rfl, rfl, rfl, ?_⟩
  split
  next => exact reply.count_ne_zero
  next h => exact h

/-- A release whose host is computed asks for it modulo the count. -/
theorem releaseTask_of_next {host : Int32 ⊕ String} {next : Int}
    (hnext : ∀ info : HostInfo, info.currentHost = reply.current → nextHost host info = some next) :
    ∃ released, releaseTask feature host reply.bytes reread = some released ∧
      released.asked = reply.askFor (next % reply.count.toNat) := by
  obtain ⟨info, feature', hinfo, hcount, hcurrent, hknown⟩ := getHostInfo_bytes feature reply
  have hpos := reply.count_pos
  have hlt := reply.count.toNat_lt
  have hzero : info.hostCount ≠ 0 := hcount ▸ reply.count_ne_zero
  have hwrap : wrapHost next info.hostCount.toNat = some (next % reply.count.toNat) := by
    rw [hcount]
    exact wrapHost_eq (by omega) (by omega)
  simp only [releaseTask, hinfo, Option.bind_eq_bind, Option.bind_some, if_neg hzero,
    hnext info hcurrent, hwrap]
  rw [HostReply.askFor, ← hcurrent]
  by_cases h : next % reply.count.toNat = info.currentHost.toNat
  · rw [if_pos h, if_neg (not_not.mpr h)]
    exact ⟨_, rfl, rfl⟩
  · obtain ⟨result, hset⟩ := setHost_defined hknown reread (UInt8.ofInt (next % reply.count.toNat))
    rw [if_neg h, if_pos h, hset]
    exact ⟨_, rfl, rfl⟩

theorem releaseTask_of_overflow {host : Int32 ⊕ String}
    (hnext : ∀ info : HostInfo, nextHost host info = none) :
    releaseTask feature host reply.bytes reread = none := by
  obtain ⟨info, feature', hinfo, hcount, -, -⟩ := getHostInfo_bytes feature reply
  have hzero : info.hostCount ≠ 0 := hcount ▸ reply.count_ne_zero
  simp only [releaseTask, hinfo, Option.bind_eq_bind, Option.bind_some, if_neg hzero, hnext,
    Option.bind_none]

/-- Where a release that asks for `n` leaves the device. -/
theorem HostReply.toNat_askFor {n : Int} (hlow : 0 ≤ n) (hhigh : n < reply.count.toNat) :
    (((reply.askFor n).getD reply.current).toNat : Int) = n := by
  have hlt := reply.count.toNat_lt
  rw [HostReply.askFor]
  split
  next h => exact h.symm
  next h =>
    rw [Option.getD_some, UInt8.ofInt, UInt8.toNat_ofNat']
    omega

theorem HostReply.lt_of_askFor {n : Int} (hlow : 0 ≤ n) (hhigh : n < reply.count.toNat) {host : UInt8}
    (h : reply.askFor n = some host) : host < reply.count := by
  have hn := reply.toNat_askFor hlow hhigh
  rw [h, Option.getD_some] at hn
  rw [UInt8.lt_iff_toNat_lt]
  omega

/-- `prev` on the host after `next` is one round from the host before. -/
theorem pred_succ_emod {current count : Int} (hlow : 0 ≤ current) (hhigh : current < count) :
    ((current + 1) % count - 1) % count = current := by
  rw [Int.emod_sub_emod, Int.add_sub_cancel]
  exact Int.emod_eq_of_lt hlow hhigh

/-- `next` and `prev` undo each other from every host. -/
theorem goesBack : GoesBack feature reply reread := by
  have hpos := reply.count_pos
  have hcurrent : reply.current.toNat < reply.count.toNat := UInt8.lt_iff_toNat_lt.mp reply.current_lt
  have hmod : ∀ n : Int, 0 ≤ n % reply.count.toNat ∧ n % reply.count.toNat < reply.count.toNat :=
    fun n => ⟨Int.emod_nonneg n (by omega), Int.emod_lt_of_pos n (by omega)⟩
  obtain ⟨there, hthere, hasked⟩ := releaseTask_of_next feature reply reread
    fun info hinfo => hinfo ▸ nextHost_next info
  refine ⟨there, hthere, ?_⟩
  intro reply' hcount hcurrent' prev hprev
  have hnow : (reply'.current.toNat : Int) = (reply.current.toNat + 1) % reply.count.toNat := by
    rw [hcurrent', hasked]
    exact reply.toNat_askFor (hmod _).1 (hmod _).2
  obtain ⟨back, hback, hasked'⟩ := releaseTask_of_next there.feature reply' reread
    fun info hinfo => hinfo ▸ nextHost_prev hprev info
  refine ⟨back, hback, ?_⟩
  rw [hcount, hnow, pred_succ_emod (by omega) (by omega)] at hasked'
  have hdone := reply'.toNat_askFor (n := reply.current.toNat) (by omega) (by rw [hcount]; omega)
  rw [hasked', ← UInt8.toNat_inj]
  exact_mod_cast hdone

theorem release_some (host : Int32 ⊕ String) (response : List UInt8) :
    release (some feature) { host := some host } response reread =
      (releaseTask feature host response reread).map some := rfl

/-- A release is right for every setting but the least number. -/
theorem asksForHost_iff (config : Config.ChangeHost) :
    AsksForHost feature config reply reread ↔ config.host ≠ some (.inl Int32.minValue) := by
  obtain ⟨setting⟩ := config
  cases setting with
  | none => exact iff_of_true ⟨none, rfl, nofun, nofun⟩ nofun
  | some host =>
    simp only [AsksForHost, release_some]
    constructor
    · rintro ⟨released, hreleased, -⟩ heq
      rw [Option.some_inj.mp heq, releaseTask_of_overflow feature reply reread nextHost_minValue]
        at hreleased
      exact absurd hreleased nofun
    · intro hne
      obtain ⟨next, hnext, hnumber⟩ := exists_nextHost (fun h => hne (h ▸ rfl)) reply.current
      obtain ⟨released, hreleased, hasked⟩ := releaseTask_of_next feature reply reread hnext
      have hpos := reply.count_pos
      refine ⟨some released, by rw [hreleased]; rfl, ?_, ?_⟩
      · intro asked h
        exact reply.lt_of_askFor (Int.emod_nonneg next (by omega)) (Int.emod_lt_of_pos next (by omega))
          (hasked.symm.trans h)
      · intro k hk
        rw [← hnumber k (Option.some_inj.mp hk)]
        exact hasked

theorem keepsRejected (config : Config.ChangeHost) (text : String) : KeepsRejected config text := by
  rw [KeepsRejected, setHost]
  intro h
  split at h
  next => exact absurd rfl h
  next hname =>
    split at h
    next => exact absurd rfl h
    next => rw [if_neg hname]

/-- The arithmetic of a host is right for every setting, and every count with a current host, exactly if
the setting is not the least `int`. -/
theorem host_arithmetic_iff (config : Config.ChangeHost) (text : String) :
    AsksForHost feature config reply reread ∧ GoesBack feature reply reread ∧
        KeepsRejected config text ↔
      config.host ≠ some (.inl Int32.minValue) := by
  rw [asksForHost_iff, and_iff_left]
  exact ⟨goesBack feature reply reread, keepsRejected config text⟩

/-- `SetHost` takes the least `int`, and the release after it overflows. -/
theorem least_host_overflows :
    (setHost {} "-2147483648").2 = .ok () ∧
      release (some {}) (setHost {} "-2147483648").1 [3, 0, 0] [] = none := by
  decide

end Logid.Actions.ChangeHostAction
