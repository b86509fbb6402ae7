import Logid.Config.Layout

/-!
# Codecs that take no notice of what they cannot read

What is decided on a layout holds of its codec: one that is total decodes every tree, and one that
is robust decodes a tree the same with and without an entry that cannot be decoded. Both are
inductions over the layout.
-/

namespace Logid.Config

open Setting

variable {α β κ T : Type}

/-! ### Totality -/

theorem optionalIo_getIn_ok (io : ConfigIo α) (s : Setting) (name : String) :
    ∃ x, (optionalIo io).getIn s name = .ok x := by
  simp only [optionalIo]
  split
  · exact ⟨_, rfl⟩
  · exact ⟨_, rfl⟩

mutual

/-- A total codec decodes every tree. -/
theorem Layout.get_ok {α : Type} {io : ConfigIo α} (layout : Layout io)
    (htotal : layout.total = true) (s : Setting) : ∃ t, io.get s = .ok t :=
  match layout with
  | .scalar _ _ => nomatch htotal
  | .reinterpret layout => by
    obtain ⟨t, ht⟩ := layout.get_ok htotal s
    simp only [reinterpretIo, ht]
    exact ⟨_, rfl⟩
  | @Layout.variant _ _ firstIo restIo first rest => by
    obtain ⟨t, ht⟩ := rest.get_ok htotal s
    cases hfirst : firstIo.get s with
    | ok x =>
      simp only [variantIo, hfirst]
      exact ⟨_, rfl⟩
    | error e =>
      simp only [variantIo, hfirst, ht]
      exact ⟨_, rfl⟩
  | .list _ => ⟨_, rfl⟩
  | .set _ => ⟨_, rfl⟩
  | .map _ => ⟨_, rfl⟩
  | @Layout.group _ g fields => by
    simp only [Layout.total, Bool.and_eq_true, Option.isNone_iff_eq_none] at htotal
    obtain ⟨hsign, hfields⟩ := htotal
    obtain ⟨t, ht⟩ := fields.get_ok hfields s g.init
    simp only [Group.io, Group.load, hsign]
    exact ⟨t, ht⟩

/-- Only a mandatory member can make the members of a group fail. -/
theorem Fields.get_ok {T : Type} {members : List (Member T)} (fields : Fields members)
    (htotal : fields.total = true) (s : Setting) (t : T) : ∃ t', groupGet s members t = .ok t' :=
  match fields with
  | .nil => ⟨t, rfl⟩
  | @Fields.optional _ _ name io _ put _ _ rest => by
    obtain ⟨x, hx⟩ := optionalIo_getIn_ok io s name
    simp only [groupGet, hx]
    exact rest.get_ok htotal s (put x t)
  | .required _ _ => nomatch htotal

end

/-! ### What an entry leaves alone -/

theorem Inserts.elems {entry s s' : Setting} (h : Inserts entry s s') :
    ∃ before after, s.elems = before ++ after ∧ s'.elems = before ++ entry :: after := by
  cases h with
  | list before after => exact ⟨before, after, rfl, rfl⟩
  | array before after => exact ⟨before, after, rfl, rfl⟩
  | group before after name =>
    exact ⟨before.map Prod.snd, after.map Prod.snd, by simp [Setting.elems],
      by simp [Setting.elems]⟩

theorem Changes.elems {x x' s s' : Setting} (h : Changes x x' s s') :
    ∃ before after, s.elems = before ++ x :: after ∧ s'.elems = before ++ x' :: after := by
  cases h with
  | list before after => exact ⟨before, after, rfl, rfl⟩
  | array before after => exact ⟨before, after, rfl, rfl⟩
  | group before after name =>
    exact ⟨before.map Prod.snd, after.map Prod.snd, by simp [Setting.elems],
      by simp [Setting.elems]⟩

/-- A loop over the children that skips the entry goes as without it. -/
theorem Inserts.filterMap {entry s s' : Setting} (h : Inserts entry s s') {f : Setting → Option β}
    (hf : f entry = none) : s'.elems.filterMap f = s.elems.filterMap f := by
  obtain ⟨before, after, hs, hs'⟩ := h.elems
  rw [hs, hs', List.filterMap_append, List.filterMap_append, List.filterMap_cons_none hf]

theorem Changes.filterMap {x x' s s' : Setting} (h : Changes x x' s s') {f : Setting → Option β}
    (hf : f x' = f x) : s'.elems.filterMap f = s.elems.filterMap f := by
  obtain ⟨before, after, hs, hs'⟩ := h.elems
  rw [hs, hs', List.filterMap_append, List.filterMap_append, List.filterMap_cons,
    List.filterMap_cons, hf]

theorem member?_skip {before after : List (String × Setting)} {name other : String}
    (hne : other ≠ name) (x : Setting) :
    member? (before ++ (name, x) :: after) other = member? (before ++ after) other := by
  induction before with
  | nil => exact member?_cons_ne hne.symm
  | cons m before ih =>
    obtain ⟨n, child⟩ := m
    by_cases hn : n = other
    · subst hn
      rw [List.cons_append, List.cons_append, member?_cons_self, member?_cons_self]
    · rw [List.cons_append, List.cons_append, member?_cons_ne hn, member?_cons_ne hn, ih]

theorem InsertsMember.lookup?_ne {name other : String} {entry s s' : Setting}
    (h : InsertsMember name entry s s') (hne : other ≠ name) :
    s'.lookup? other = s.lookup? other := by
  cases h with
  | group before after => exact member?_skip hne entry

theorem InsertsMember.lookup?_self {name : String} {entry s s' : Setting}
    (h : InsertsMember name entry s s') :
    s.lookup? name = none ∧ s'.lookup? name = some entry := by
  cases h with
  | group before after hbefore hafter =>
    constructor
    · refine member?_eq_none.mpr ?_
      rw [List.map_append, List.mem_append]
      exact not_or_intro hbefore hafter
    · rw [lookup?, member?_append hbefore, member?_cons_self]

theorem ChangesMember.lookup?_ne {name other : String} {x x' s s' : Setting}
    (h : ChangesMember name x x' s s') (hne : other ≠ name) :
    s'.lookup? other = s.lookup? other := by
  cases h with
  | group before after => exact (member?_skip hne x').trans (member?_skip hne x).symm

theorem ChangesMember.lookup?_self {name : String} {x x' s s' : Setting}
    (h : ChangesMember name x x' s s') :
    s.lookup? name = some x ∧ s'.lookup? name = some x' := by
  cases h with
  | group before after hbefore =>
    constructor
    · rw [lookup?, member?_append hbefore, member?_cons_self]
    · rw [lookup?, member?_append hbefore, member?_cons_self]

/-- An entry is put into or below a member of the group. -/
theorem Fields.lookup?_eq {T : Type} {members : List (Member T)} {s s' : Setting} {name : String}
    (fields : Fields members) (h : fields.Spoils s s') (hname : name ∉ members.map Member.name) :
    s'.lookup? name = s.lookup? name :=
  match fields with
  | .nil => h.elim
  | .optional _ rest => by
    obtain ⟨hne, hrest⟩ := not_or.mp (fun hmem => hname (List.mem_cons.mpr hmem))
    rcases h with ⟨entry, e, -, hinserts⟩ | ⟨x, x', -, hchanges⟩ | h
    · exact hinserts.lookup?_ne hne
    · exact hchanges.lookup?_ne hne
    · exact rest.lookup?_eq h hrest
  | .required _ rest => by
    obtain ⟨hne, hrest⟩ := not_or.mp (fun hmem => hname (List.mem_cons.mpr hmem))
    rcases h with ⟨x, x', -, hchanges⟩ | h
    · exact hchanges.lookup?_ne hne
    · exact rest.lookup?_eq h hrest

/-- What is not touched is found as before. -/
theorem Layout.lookup?_eq {α : Type} {io : ConfigIo α} {s s' : Setting} {name : String}
    {touched : List String} (layout : Layout io) (htouched : layout.touched = some touched)
    (h : layout.Spoils s s') (hname : name ∉ touched) : s'.lookup? name = s.lookup? name :=
  match layout with
  | .scalar _ _ => h.elim
  | .reinterpret layout => layout.lookup?_eq htouched h hname
  | .variant first rest => by
    simp only [Layout.touched, Option.bind_eq_bind, Option.bind_eq_some_iff, Option.pure_def,
      Option.some_inj] at htouched
    obtain ⟨names, hfirst, names', hrest, rfl⟩ := htouched
    obtain ⟨hnot, hnot'⟩ := not_or.mp (fun hmem => hname (List.mem_append.mpr hmem))
    rcases h with ⟨-, h⟩ | ⟨-, h⟩
    · exact first.lookup?_eq hfirst h hnot
    · exact rest.lookup?_eq hrest h hnot'
  | .list _ => nomatch htouched
  | .set _ => nomatch htouched
  | .map _ => nomatch htouched
  | .group fields => by
    cases htouched
    exact fields.lookup?_eq h hname

/-! ### Entries are put into containers -/

theorem Fields.isScalar_eq_false {T : Type} {members : List (Member T)} {s s' : Setting}
    (fields : Fields members) (h : fields.Spoils s s') : Setting.isScalar s'.getType = false :=
  match fields with
  | .nil => h.elim
  | .optional _ rest => by
    rcases h with ⟨entry, e, -, ⟨⟩⟩ | ⟨x, x', -, ⟨⟩⟩ | h
    · rfl
    · rfl
    · exact rest.isScalar_eq_false h
  | .required _ rest => by
    rcases h with ⟨x, x', -, ⟨⟩⟩ | h
    · rfl
    · exact rest.isScalar_eq_false h

theorem Inserts.isScalar_eq_false {entry s s' : Setting} (h : Inserts entry s s') :
    Setting.isScalar s'.getType = false := by
  cases h <;> rfl

theorem Changes.isScalar_eq_false {x x' s s' : Setting} (h : Changes x x' s s') :
    Setting.isScalar s'.getType = false := by
  cases h <;> rfl

theorem Layout.isScalar_eq_false {α : Type} {io : ConfigIo α} {s s' : Setting}
    (layout : Layout io) (h : layout.Spoils s s') : Setting.isScalar s'.getType = false :=
  match layout with
  | .scalar _ _ => h.elim
  | .reinterpret layout => layout.isScalar_eq_false h
  | .variant first rest => by
    rcases h with ⟨-, h⟩ | ⟨-, h⟩
    · exact first.isScalar_eq_false h
    · exact rest.isScalar_eq_false h
  | .list _ | .set _ | .map _ => by
    rcases h with ⟨entry, e, -, hinserts⟩ | ⟨x, x', -, hchanges⟩
    · exact hinserts.isScalar_eq_false
    · exact hchanges.isScalar_eq_false
  | .group fields => fields.isScalar_eq_false h

/-! ### An alternative that was passed over -/

theorem reinterpretIo_get_error {io : ConfigIo β} {cast : α → β} {back : β → α} {s : Setting} :
    (∃ e, (reinterpretIo io cast back).get s = .error e) ↔ ∃ e, io.get s = .error e := by
  simp only [reinterpretIo]
  cases io.get s <;> simp [Except.map]

theorem Layout.rejects_of_isScalar {α : Type} {io : ConfigIo α} {s : Setting} (layout : Layout io)
    (hlayout : layout.isScalar = true) (hs : Setting.isScalar s.getType = false) :
    ∃ e, io.get s = .error e :=
  match layout with
  | .scalar _ rejects => rejects s hs
  | .reinterpret layout =>
    reinterpretIo_get_error.mpr (layout.rejects_of_isScalar hlayout hs)
  | .variant _ _ => nomatch hlayout
  | .list _ => nomatch hlayout
  | .set _ => nomatch hlayout
  | .map _ => nomatch hlayout
  | .group _ => nomatch hlayout

theorem lookup_eq {s s' : Setting} {name : String} (h : s'.lookup? name = s.lookup? name) :
    s'.lookup name = s.lookup name := by
  rw [lookup, lookup, h]

theorem member_getIn_eq (io : ConfigIo α) {s s' : Setting} {name : String}
    (h : s'.lookup? name = s.lookup? name) : io.member.getIn s' name = io.member.getIn s name := by
  simp only [ConfigIo.member, lookup_eq h]

theorem optionalIo_getIn_eq (io : ConfigIo α) {s s' : Setting} {name : String}
    (h : s'.lookup? name = s.lookup? name) :
    (optionalIo io).getIn s' name = (optionalIo io).getIn s name := by
  simp only [optionalIo, h]

/-- Whether the members of a group can be read is up to the mandatory ones. -/
theorem Fields.get_error {T : Type} {members : List (Member T)} {s s' : Setting}
    (fields : Fields members) (hsame : ∀ name ∈ fields.mandatory, s'.lookup? name = s.lookup? name)
    {t : T} (h : ∃ e, groupGet s members t = .error e) (t' : T) :
    ∃ e, groupGet s' members t' = .error e :=
  match fields with
  | .nil => by
    obtain ⟨e, he⟩ := h
    cases he
  | @Fields.optional _ _ name io _ put _ _ rest => by
    obtain ⟨x, hx⟩ := optionalIo_getIn_ok io s name
    obtain ⟨x', hx'⟩ := optionalIo_getIn_ok io s' name
    simp only [groupGet, hx] at h
    simp only [groupGet, hx']
    exact rest.get_error hsame h (put x' t')
  | @Fields.required _ _ name io _ put _ _ rest => by
    have hname := member_getIn_eq io (hsame name List.mem_cons_self)
    simp only [groupGet] at h ⊢
    rw [hname]
    cases hx : io.member.getIn s name with
    | error e => exact ⟨_, rfl⟩
    | ok x =>
      simp only [hx] at h
      exact rest.get_error (fun n hn => hsame n (List.mem_cons_of_mem _ hn)) h (put x t')

theorem Group.load_error {g : Group T} (fields : Fields g.members) {s s' : Setting}
    (hsame : ∀ name ∈ (g.sign.map Prod.fst).toList ++ fields.mandatory,
      s'.lookup? name = s.lookup? name) (h : ∃ e, g.load s = .error e) :
    ∃ e, g.load s' = .error e := by
  have hfields : (∃ e, groupGet s g.members g.init = .error e) →
      ∃ e, groupGet s' g.members g.init = .error e := fun herror =>
    fields.get_error (fun n hn => hsame n (List.mem_append_right _ hn)) herror g.init
  unfold Group.load at h ⊢
  cases hsign : g.sign with
  | none =>
    simp only [hsign] at h
    exact hfields h
  | some sign =>
    have hname : stringIo.member.getIn s' sign.1 = stringIo.member.getIn s sign.1 :=
      member_getIn_eq stringIo (hsame sign.1 (by simp [hsign]))
    simp only [hsign, hname] at h ⊢
    cases hfound : stringIo.member.getIn s sign.1 with
    | error e => exact ⟨e, rfl⟩
    | ok found =>
      simp only [hfound, bind, Except.bind] at h ⊢
      split
      · exact ⟨_, rfl⟩
      next hmatch =>
        rw [if_neg hmatch] at h
        exact hfields h

theorem Layout.get_error {α : Type} {io : ConfigIo α} {s s' : Setting} {decisive : List String}
    (layout : Layout io) (hdecisive : layout.decisive = some decisive)
    (hsame : ∀ name ∈ decisive, s'.lookup? name = s.lookup? name)
    (h : ∃ e, io.get s = .error e) : ∃ e, io.get s' = .error e :=
  match layout with
  | .scalar _ _ => nomatch hdecisive
  | .reinterpret layout =>
    reinterpretIo_get_error.mpr
      (layout.get_error hdecisive hsame (reinterpretIo_get_error.mp h))
  | .variant _ _ => nomatch hdecisive
  | .list _ => nomatch hdecisive
  | .set _ => nomatch hdecisive
  | .map _ => nomatch hdecisive
  | .group fields => by
    cases hdecisive
    exact Group.load_error fields hsame h

/-- The first alternative is passed over with the entry too. -/
theorem Layout.get_error_of_separated {firstIo : ConfigIo α} {restIo : ConfigIo β}
    {first : Layout firstIo} {rest : Layout restIo} (hseparated : first.separated rest = true)
    {s s' : Setting} (hspoils : rest.Spoils s s') (h : ∃ e, firstIo.get s = .error e) :
    ∃ e, firstIo.get s' = .error e := by
  rcases (Bool.or_eq_true _ _).mp hseparated with hscalar | hnames
  · exact first.rejects_of_isScalar hscalar (rest.isScalar_eq_false hspoils)
  · obtain ⟨decisive, hdecisive, hnames⟩ := (Option.any_eq_true _ _).mp hnames
    obtain ⟨touched, htouched, hnames⟩ := (Option.any_eq_true _ _).mp hnames
    refine first.get_error hdecisive (fun name hname => ?_) h
    refine rest.lookup?_eq htouched hspoils fun hmem => ?_
    have hnot := List.all_eq_true.mp hnames name hmem
    simp [hname] at hnot

/-! ### Isolation -/

theorem groupGet_congr {s s' : Setting} {members : List (Member T)}
    (h : ∀ m ∈ members, m.io.getIn s' m.name = m.io.getIn s m.name) (t : T) :
    groupGet s' members t = groupGet s members t := by
  induction members generalizing t with
  | nil => rfl
  | cons m members ih =>
    rw [groupGet, groupGet, h m List.mem_cons_self]
    cases m.io.getIn s m.name with
    | error e => rfl
    | ok x => exact ih (fun m' hm' => h m' (List.mem_cons_of_mem m hm')) (m.put x t)

/-- A member that is found as before is read as before. -/
theorem Fields.getIn_eq {T : Type} {members : List (Member T)} {s s' : Setting}
    (fields : Fields members) {m : Member T} (hm : m ∈ members)
    (h : s'.lookup? m.name = s.lookup? m.name) :
    m.io.getIn s' m.name = m.io.getIn s m.name :=
  match fields with
  | .nil => nomatch hm
  | @Fields.optional _ _ name io _ _ _ _ rest => by
    rcases List.mem_cons.mp hm with rfl | hm
    · exact optionalIo_getIn_eq io h
    · exact rest.getIn_eq hm h
  | @Fields.required _ _ name io _ _ _ _ rest => by
    rcases List.mem_cons.mp hm with rfl | hm
    · exact member_getIn_eq io h
    · exact rest.getIn_eq hm h

mutual

/-- A robust codec decodes a tree as it does without an entry that cannot be decoded. -/
theorem Layout.get_eq {α : Type} {io : ConfigIo α} {s s' : Setting} (layout : Layout io)
    (hrobust : layout.robust = true) (h : layout.Spoils s s') : io.get s' = io.get s :=
  match layout with
  | .scalar _ _ => h.elim
  | .reinterpret layout => by
    simp only [reinterpretIo, layout.get_eq hrobust h]
  | @Layout.variant _ _ firstIo restIo first rest => by
    simp only [Layout.robust, Bool.and_eq_true] at hrobust
    obtain ⟨⟨hfirst, hrest⟩, hseparated⟩ := hrobust
    rcases h with ⟨⟨t, ht⟩, h⟩ | ⟨herror, h⟩
    · have hsame : firstIo.get s' = firstIo.get s := first.get_eq hfirst h
      simp only [variantIo, hsame, ht]
    · obtain ⟨e', he'⟩ := Layout.get_error_of_separated hseparated h herror
      obtain ⟨e, he⟩ := herror
      simp only [variantIo, he, he', rest.get_eq hrest h]
  | @Layout.list _ io layout => by
    refine congrArg Except.ok ?_
    rcases h with ⟨entry, e, hentry, hinserts⟩ | ⟨x, x', h, hchanges⟩
    · exact hinserts.filterMap (by rw [hentry]; rfl)
    · exact hchanges.filterMap (by rw [layout.get_eq hrobust h])
  | @Layout.set _ io less layout => by
    refine congrArg (fun t => Except.ok (List.foldl _ SortedMap.empty t)) ?_
    rcases h with ⟨entry, e, hentry, hinserts⟩ | ⟨x, x', h, hchanges⟩
    · exact hinserts.filterMap (by rw [hentry]; rfl)
    · exact hchanges.filterMap (by rw [layout.get_eq hrobust h])
  | @Layout.map _ _ keyName key io less value => by
    simp only [Layout.robust, Bool.and_eq_true] at hrobust
    obtain ⟨hvalue, hkey⟩ := hrobust
    refine congrArg (fun t => Except.ok (List.foldl _ SortedMap.empty t)) ?_
    rcases h with ⟨entry, e, hentry, hinserts⟩ | ⟨x, x', h, hchanges⟩
    · exact hinserts.filterMap (by rw [hentry]; rfl)
    · obtain ⟨touched, htouched, hnot⟩ := (Option.any_eq_true _ _).mp hkey
      have hlookup : x'.lookup keyName = x.lookup keyName :=
        lookup_eq (value.lookup?_eq htouched h (by simpa using hnot))
      refine hchanges.filterMap ?_
      rw [getEntry, getEntry, hlookup, value.get_eq hvalue h]
  | @Layout.group _ g fields => by
    simp only [Layout.robust, Bool.and_eq_true] at hrobust
    obtain ⟨hfields, hsign⟩ := hrobust
    have hmembers : groupGet s' g.members g.init = groupGet s g.members g.init :=
      groupGet_congr (fields.get_eq hfields h) g.init
    show g.load s' = g.load s
    unfold Group.load
    cases hg : g.sign with
    | none => exact hmembers
    | some sign =>
      have hnot : sign.1 ∉ g.members.map Member.name := by
        simpa [hg] using hsign
      have hname : stringIo.member.getIn s' sign.1 = stringIo.member.getIn s sign.1 :=
        member_getIn_eq stringIo (fields.lookup?_eq h hnot)
      simp only [hname, hmembers]

/-- The members next to the one with the entry, and that one, are read as without it. -/
theorem Fields.get_eq {T : Type} {members : List (Member T)} {s s' : Setting}
    (fields : Fields members) (hrobust : fields.robust = true) (h : fields.Spoils s s') :
    ∀ m ∈ members, m.io.getIn s' m.name = m.io.getIn s m.name :=
  match fields with
  | .nil => h.elim
  | @Fields.optional _ _ name io _ _ members layout rest => by
    simp only [Fields.robust, Bool.and_eq_true, Bool.not_eq_true', List.contains_eq_mem,
      decide_eq_false_iff_not] at hrobust
    obtain ⟨⟨hlayout, hrest⟩, hname⟩ := hrobust
    intro m hm
    rcases List.mem_cons.mp hm with rfl | hm
    · rcases h with ⟨entry, e, hentry, hinserts⟩ | ⟨x, x', h, hchanges⟩ | h
      · obtain ⟨hs, hs'⟩ := hinserts.lookup?_self
        simp only [optionalIo, hs, hs', hentry]
        rfl
      · obtain ⟨hs, hs'⟩ := hchanges.lookup?_self
        simp only [optionalIo, hs, hs', layout.get_eq hlayout h]
      · exact optionalIo_getIn_eq io (rest.lookup?_eq h hname)
    · have hne : m.name ≠ name := fun heq => hname (heq ▸ List.mem_map_of_mem hm)
      rcases h with ⟨entry, e, -, hinserts⟩ | ⟨x, x', -, hchanges⟩ | h
      · exact rest.getIn_eq hm (hinserts.lookup?_ne hne)
      · exact rest.getIn_eq hm (hchanges.lookup?_ne hne)
      · exact rest.get_eq hrest h m hm
  | @Fields.required _ _ name io _ _ members layout rest => by
    simp only [Fields.robust, Bool.and_eq_true, Bool.not_eq_true', List.contains_eq_mem,
      decide_eq_false_iff_not] at hrobust
    obtain ⟨⟨hlayout, hrest⟩, hname⟩ := hrobust
    intro m hm
    rcases List.mem_cons.mp hm with rfl | hm
    · rcases h with ⟨x, x', h, hchanges⟩ | h
      · obtain ⟨hs, hs'⟩ := hchanges.lookup?_self
        simp only [ConfigIo.member, lookup, hs, hs', bind, Except.bind,
          layout.get_eq hlayout h]
      · exact member_getIn_eq io (rest.lookup?_eq h hname)
    · have hne : m.name ≠ name := fun heq => hname (heq ▸ List.mem_map_of_mem hm)
      rcases h with ⟨x, x', -, hchanges⟩ | h
      · exact rest.getIn_eq hm (hchanges.lookup?_ne hne)
      · exact rest.get_eq hrest h m hm

end

end Logid.Config
