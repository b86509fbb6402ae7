import Logid.Gui.PresetList

/-!
# The presets that the daemon has are the ones that the interface shows

Values and labels are two lists of one length in the interface, and the daemon makes one list of both, so
what it replies is what was sent.
-/

namespace Logid.Gui

open Features (DPI.getPresets DPI.setPresets)

/-- Two lists of one length come back as they were sent. -/
theorem getPresets_setPresets {values : List UInt32} {labels : List String}
    (h : values.length = labels.length) :
    DPI.getPresets (DPI.setPresets values labels) = (values, labels) := by
  simp only [DPI.setPresets]
  split
  next hempty =>
    have hlen := congrArg List.length hempty
    rw [List.length_mapIdx, List.length_nil] at hlen
    rw [List.length_eq_zero_iff.mp hlen, List.length_eq_zero_iff.mp (h.symm.trans hlen)]
    rfl
  next =>
    simp only [DPI.getPresets, Prod.mk.injEq]
    constructor
    · apply List.ext_getElem?
      intro i
      rw [List.getElem?_map, List.getElem?_mapIdx, Option.map_map]
      cases values[i]? <;> simp
    · apply List.ext_getElem?
      intro i
      rw [List.getElem?_map, List.getElem?_mapIdx, Option.map_map]
      by_cases hi : i < labels.length
      · rw [List.getElem?_eq_getElem hi, List.getElem?_eq_getElem (h ▸ hi)]
        simp only [Option.map_some, Function.comp_apply, Option.some_inj]
        split
        next hlabel => exact hlabel.symm
        next => rfl
      · rw [List.getElem?_eq_none (by omega), List.getElem?_eq_none (by omega)]
        rfl

namespace PresetList

variable {p : PresetList}

/-- The lists have one length, and the view shows them. -/
structure Consistent (p : PresetList) : Prop where
  paired : p.presetLabels.length = p.presetValues.length
  shown : p.rebuildPresetModel = p

theorem consistent_rebuild (h : p.presetLabels.length = p.presetValues.length) :
    p.rebuildPresetModel.Consistent := ⟨h, rfl⟩

theorem consistent_seedPresets (p : PresetList) (values : List UInt32) (labels : List String) :
    (p.seedPresets values labels).Consistent := by
  apply consistent_rebuild
  rw [List.length_mapIdx, List.length_map]

/-- Seeding the lists with themselves changes nothing. -/
theorem Consistent.seedPresets_self (h : p.Consistent) :
    p.seedPresets (p.presetValues.map Int32.toUInt32) p.presetLabels = p := by
  have hlabels : (p.presetValues.map Int32.toUInt32).mapIdx (fun i _ => p.presetLabels.getD i "") =
      p.presetLabels := by
    have hlen := h.paired
    apply List.ext_getElem?
    intro i
    rw [List.getElem?_mapIdx, List.getElem?_map, Option.map_map]
    by_cases hi : i < p.presetLabels.length
    · rw [List.getElem?_eq_getElem (hlen ▸ hi), List.getElem?_eq_getElem hi]
      simp [hi]
    · rw [List.getElem?_eq_none (by omega), List.getElem?_eq_none (by omega)]
      rfl
  have hvalues : (p.presetValues.map Int32.toUInt32).map UInt32.toInt32 = p.presetValues := by
    rw [List.map_map]
    exact List.map_id'' (fun value => Int32.toInt32_toUInt32 value) _
  rw [seedPresets, hlabels, hvalues]
  exact h.shown

/-- What an edit leaves: consistent lists, sent to the daemon or the same as before. -/
inductive Edited (p : PresetList) : PresetList × Option Push → Prop where
  | kept {q : PresetList} (consistent : q.Consistent) (values : q.presetValues = p.presetValues)
    (labels : q.presetLabels = p.presetLabels) : Edited p (q, none)
  | sent {q : PresetList} (consistent : q.Consistent) :
    Edited p (q, some (q.presetValues.map Int32.toUInt32, q.presetLabels))

theorem edited_syncPresets {q : PresetList} (h : q.presetLabels.length = q.presetValues.length) :
    Edited p q.syncPresets := .sent (consistent_rebuild h)

theorem Consistent.edit (h : p.Consistent) (e : PresetEdit) : Edited p (p.edit e) := by
  have hlen := h.paired
  have hkept : Edited p (p, none) := .kept h rfl rfl
  cases e with
  | add dpi label =>
    apply edited_syncPresets
    simp [hlen]
  | remove index =>
    rw [PresetList.edit, removePreset]
    split
    · exact hkept
    · apply edited_syncPresets
      rw [if_pos (by omega), List.length_eraseIdx, List.length_eraseIdx, hlen]
  | setLabel index label =>
    rw [PresetList.edit, setPresetLabel]
    split
    · exact hkept
    · split
      · exact hkept
      · apply edited_syncPresets
        rw [List.length_set, hlen]
  | setValue index dpi =>
    rw [PresetList.edit, setPresetValue]
    split
    · exact hkept
    · dsimp only
      split
      · exact hkept
      · apply edited_syncPresets
        rw [List.length_set, hlen]
  | bounds dpis =>
    rw [PresetList.edit, seedDpiBounds]
    split
    · have hshown : p.presetValues.mapIdx (fun i value => (value, p.presetLabels.getD i "")) =
          p.dpiPresets := congrArg dpiPresets h.shown
      refine .kept ⟨hlen, ?_⟩ rfl rfl
      simp only [rebuildPresetModel, hshown]
    · exact hkept

end PresetList

namespace PresetSession

/-- What was last sent is what the interface has, and what the daemon has made its presets of. -/
structure Synced (s : PresetSession) : Prop where
  consistent : s.gui.Consistent
  sent : ∀ push, s.lastPush = some push →
    push = (s.gui.presetValues.map Int32.toUInt32, s.gui.presetLabels) ∧
      s.daemon = DPI.setPresets push.1 push.2

theorem synced_start (daemon : Option (List Config.DpiPreset)) (seeded : Bool) :
    (start daemon seeded).Synced := by
  refine ⟨?_, fun push hpush => nomatch hpush⟩
  cases seeded with
  | false => exact ⟨rfl, rfl⟩
  | true => exact PresetList.consistent_seedPresets _ _ _

theorem Synced.step {s t : PresetSession} (hs : s.Synced) {e : PresetEdit}
    (h : step s e = some t) : t.Synced := by
  have hedited := hs.consistent.edit e
  unfold PresetSession.step at h
  generalize s.gui.edit e = result at h hedited
  cases hedited with
  | kept consistent values labels =>
    cases h
    refine ⟨consistent, ?_⟩
    rw [values, labels]
    exact hs.sent
  | sent consistent =>
    cases h
    refine ⟨consistent, ?_⟩
    intro push hpush
    cases hpush
    exact ⟨rfl, rfl⟩

/-- After every push of a run of edits, the two arrays have one length, the daemon replies with them, they
are the lists of the interface, and seeding it with the reply changes nothing. -/
theorem presets_round_trip {daemon : Option (List Config.DpiPreset)} {seeded : Bool}
    {s : PresetSession} (hs : (machine daemon seeded).Reachable s) {push : PresetList.Push}
    (hpush : s.lastPush = some push) :
    push.1.length = push.2.length ∧ DPI.getPresets s.daemon = push ∧
    push = (s.gui.presetValues.map Int32.toUInt32, s.gui.presetLabels) ∧
    s.gui.seedPresets (DPI.getPresets s.daemon).1 (DPI.getPresets s.daemon).2 = s.gui := by
  have hsynced : s.Synced := Machine.invariant (I := Synced) (synced_start daemon seeded)
    (fun _ _ _ hs h => hs.step h) hs
  obtain ⟨rfl, hdaemon⟩ := hsynced.sent push hpush
  have hlen : (s.gui.presetValues.map Int32.toUInt32).length = s.gui.presetLabels.length := by
    rw [List.length_map, hsynced.consistent.paired]
  have hreply := getPresets_setPresets hlen
  rw [← hdaemon] at hreply
  refine ⟨hlen, hreply, rfl, ?_⟩
  rw [hreply]
  exact hsynced.consistent.seedPresets_self

theorem relabelled_preset_round_trip :
    ∃ s, (machine none true).run (machine none true).init
        [.bounds [200, 8000], .add 9000 "Fast", .add 800 "Slow", .setLabel 1 ""] = some s ∧
      DPI.getPresets s.daemon = ([8000, 800], ["Fast", ""]) ∧
      s.gui.seedPresets [8000, 800] ["Fast", ""] = s.gui := by
  refine ⟨_, rfl, ?_⟩
  have h := @presets_round_trip none true _ ⟨[.bounds [200, 8000], .add 9000 "Fast", .add 800 "Slow",
    .setLabel 1 ""], rfl⟩ ([8000, 800], ["Fast", ""]) (by decide)
  rw [h.2.1] at h
  exact ⟨h.2.1, h.2.2.2⟩

end PresetSession

end Logid.Gui
