import Logid.Ipcgull.Variant
import Mathlib.Data.List.TakeWhile

/-!
# Round trips over the bus

A value is sent as the variant that `to_variant` makes of it, in the type of the program's
declaration, and read back through a variant. Which values arrive as they were sent depends on their
strings and objects alone: GLib has to take them, and the paths of the objects lead back to them.
-/

namespace Logid.Ipcgull

variable {ω : Type}

/-! ## Between the program and variants -/

theorem mapM_eq_some_iff_eq_map {α β : Type} {f : α → Option β} {g : β → α}
    (h : ∀ a b, f a = some b ↔ a = g b) (as : List α) (bs : List β) :
    as.mapM f = some bs ↔ as = bs.map g := by
  induction as generalizing bs with
  | nil =>
    cases bs with
    | nil => simp
    | cons b bs => simp
  | cons a as ih =>
    cases bs with
    | nil => simp [Option.bind_eq_some_iff]
    | cons b bs =>
      rw [List.mapM_cons, List.map_cons, List.cons.injEq, ← h, ← ih]
      cases f a with
      | none => simp
      | some c => cases as.mapM f <;> simp

theorem Variant.getScalar_eq_some_iff (v : Variant ω) (kind : Scalar) (x : kind.Value) :
    v.getScalar kind = some x ↔ v = .scalar kind x := by
  cases v with
  | scalar kind' x' =>
    rw [Variant.getScalar, Variant.scalar.injEq]
    by_cases h : kind' = kind
    · subst h
      simp
    · simp [h]
  | object => simp [Variant.getScalar]
  | string => simp [Variant.getScalar]
  | vector => simp [Variant.getScalar]
  | tuple => simp [Variant.getScalar]

theorem Variant.getString_eq_some_iff (v : Variant ω) (s : Bytes) :
    v.getString = some s ↔ v = .string s := by
  cases v <;> simp [Variant.getString]

theorem Variant.bind_getVector_eq_some_iff {β : Type} {f : List (Variant ω) → Option β}
    {g : β → List (Variant ω)} (h : ∀ vs y, f vs = some y ↔ vs = g y) (v : Variant ω) (y : β) :
    v.getVector.bind f = some y ↔ v = .vector (g y) := by
  cases v <;> simp [Variant.getVector, h]

theorem Variant.bind_getTuple_eq_some_iff {β : Type} {f : List (Variant ω) → Option β}
    {g : β → List (Variant ω)} (h : ∀ vs y, f vs = some y ↔ vs = g y) (v : Variant ω) (y : β) :
    v.getTuple.bind f = some y ↔ v = .tuple (g y) := by
  cases v <;> simp [Variant.getTuple, h]

mutual

/-- `from_variant` accepts what `to_variant` makes, and nothing else. -/
theorem fromVariant_eq_some_iff : (t : Ty) → (h : t.plain = true) → (v : Variant ω) →
    (x : t.Value ω) → (fromVariant t h v = some x ↔ v = toVariant t x)
  | .scalar kind, _, v, x => v.getScalar_eq_some_iff kind x
  | .object, h, _, _ => absurd h (by decide)
  | .string, _, v, s => v.getString_eq_some_iff s
  | .vector element, h, v, xs =>
    v.bind_getVector_eq_some_iff (mapM_eq_some_iff_eq_map (fromVariant_eq_some_iff element h)) xs
  | .tuple elements, h, v, xs =>
    v.bind_getTuple_eq_some_iff (fromVariants_eq_some_iff elements h) xs

theorem fromVariants_eq_some_iff : (ts : List Ty) → (h : Ty.arePlain ts = true) →
    (vs : List (Variant ω)) → (xs : Ty.Values ω ts) →
    (fromVariants ts h vs = some xs ↔ vs = toVariants ts xs)
  | [], _, [], xs => by
    cases xs
    exact ⟨fun _ => rfl, fun _ => rfl⟩
  | [], _, v :: vs, xs => by simp [fromVariants, toVariants]
  | t :: ts, _, [], (x, xs) => by simp [fromVariants, toVariants]
  | t :: ts, h, v :: vs, (x, xs) => by
    obtain ⟨ht, hts⟩ := Bool.and_eq_true_iff.mp h
    show ((fromVariant t ht v).bind fun x => (fromVariants ts hts vs).bind fun xs => some (x, xs)) =
      some (x, xs) ↔ v :: vs = toVariant t x :: toVariants ts xs
    rw [List.cons.injEq, ← fromVariant_eq_some_iff t ht v x, ← fromVariants_eq_some_iff ts hts vs xs]
    cases fromVariant t ht v with
    | none => simp
    | some y => cases fromVariants ts hts vs <;> simp

end

theorem fromVariants_toVariants (ts : List Ty) (h : Ty.arePlain ts = true) (xs : Ty.Values ω ts) :
    fromVariants ts h (toVariants ts xs) = some xs :=
  (fromVariants_eq_some_iff ts h _ xs).mpr rfl

/-! ## Over the bus -/

theorem mem_takeWhile_ne {α : Type} [DecidableEq α] (a : α) (as : List α) :
    a ∉ as.takeWhile (· ≠ a) := by
  intro h
  simpa using List.mem_takeWhile_imp h

theorem cString_eq_self_iff (s : Bytes) : cString s = s ↔ 0 ∉ s := by
  rw [cString, List.takeWhile_eq_self_iff]
  constructor
  · intro h hmem
    simpa using h _ hmem
  · intro h c hc
    rw [decide_eq_true_eq]
    rintro rfl
    exact h hc

variable {G : GLib} {lookup : ω → Option String} {managed : String → Option ω}

/-- The children that a container is made of. -/
def allMade : Except Failure (List (Option GVariant)) → Option (List GVariant)
  | .ok children => children.mapM id
  | .error _ => none

theorem made_ofChildren (make : List GVariant → GVariant)
    (children : Except Failure (List (Option GVariant))) :
    made (children.bind (ofChildren make)) = (allMade children).map make := by
  cases children with
  | error e => rfl
  | ok gs =>
    show made (ofChildren make gs) = (gs.mapM id).map make
    rw [ofChildren]
    cases gs.mapM id <;> rfl

/-- A container needs each child. -/
theorem allMade_cons (child : Except Failure (Option GVariant))
    (children : Except Failure (List (Option GVariant))) :
    allMade (child.bind fun g => children.bind fun gs => .ok (g :: gs)) =
      (made child).bind fun g => (allMade children).bind fun gs => some (g :: gs) := by
  cases child with
  | error e => rfl
  | ok g =>
    cases children with
    | error e => cases g <;> rfl
    | ok gs =>
      show (g :: gs).mapM id = g.bind fun g => (gs.mapM id).bind fun gs => some (g :: gs)
      rw [List.mapM_cons]
      rfl

theorem fromGVariants_cons_eq_some_iff (g : Option GVariant) (gs : Option (List GVariant))
    (v : Variant ω) (vs : List (Variant ω)) :
    ((g.bind fun g => gs.bind fun gs => some (g :: gs)).bind (fromGVariants managed)) =
      some (v :: vs) ↔
        g.bind (fromGVariant managed) = some v ∧ gs.bind (fromGVariants managed) = some vs := by
  cases g with
  | none => simp
  | some g =>
    cases gs with
    | none => simp
    | some gs =>
      simp only [Option.bind_some]
      show ((fromGVariant managed g).bind fun v =>
        (fromGVariants managed gs).bind fun vs => some (v :: vs)) = _ ↔ _
      cases fromGVariant managed g with
      | none => simp
      | some w => cases fromGVariants managed gs <;> simp

/-- The elements of an array arrive together if each one does. -/
theorem array_arrives_iff (element : VariantType) (vs : List (Variant ω)) :
    (allMade (toGVariantArray G lookup vs element)).bind (fromGVariants managed) = some vs ↔
      ∀ v ∈ vs, (made (toGVariant G lookup v element)).bind (fromGVariant managed) = some v := by
  induction vs with
  | nil => exact iff_of_true rfl (List.forall_mem_nil _)
  | cons v vs ih =>
    rw [List.forall_mem_cons, ← ih, ← fromGVariants_cons_eq_some_iff, ← allMade_cons]
    rfl

theorem string_arrives_iff (hG : G.Documented) (s : Bytes) :
    (made (toGVariant G lookup (.string s) .string)).bind (fromGVariant managed) =
      some (.string s) ↔ Whole s := by
  show ((G.newString (cString s)).map GVariant.string).bind (fromGVariant managed) = _ ↔ _
  have hnew := fun t => hG.newString_eq_some_iff (cString s) t (mem_takeWhile_ne 0 s)
  have hread : ((G.newString (cString s)).map GVariant.string).bind (fromGVariant managed) =
      (G.newString (cString s)).map Variant.string := by
    cases G.newString (cString s) <;> rfl
  rw [hread, Option.map_eq_some_iff]
  simp only [Variant.string.injEq, exists_eq_right]
  rw [hnew, eq_comm, cString_eq_self_iff, Whole]
  refine and_congr_right fun hnul => ?_
  rw [(cString_eq_self_iff s).mpr hnul]

theorem nul_notMem_cPath (path : String) : '\x00' ∉ (cPath path).toList := by
  rw [cPath, String.toList_ofList]
  exact mem_takeWhile_ne _ _

theorem object_arrives_iff (hG : G.Documented) (o : ω) :
    (made (toGVariant G lookup (.object o) .objectPath)).bind (fromGVariant managed) =
      some (.object o) ↔ Referable lookup managed o := by
  rw [Referable, toGVariant]
  cases lookup o with
  | none => simp [made]
  | some path =>
    have hnew := fun path' =>
      hG.newObjectPath_eq_some_iff (cPath path) path' (nul_notMem_cPath path)
    simp only [made, Option.some_inj, exists_eq_left']
    cases hpath : G.newObjectPath (cPath path) with
    | none =>
      have hinvalid : ¬ ObjectPath (cPath path) := by
        intro hvalid
        rw [(hnew _).mpr ⟨rfl, hvalid⟩] at hpath
        cases hpath
      simp [hinvalid]
    | some path' =>
      obtain ⟨rfl, hvalid⟩ := (hnew path').mp hpath
      show (managed (cPath path)).map Variant.object = some (.object o) ↔ _
      simp [hvalid]

theorem vector_arrives_iff (element : VariantType) (vs : List (Variant ω)) :
    (made (toGVariant G lookup (.vector vs) (.array element))).bind (fromGVariant managed) =
      some (.vector vs) ↔
        ∀ v ∈ vs, (made (toGVariant G lookup v element)).bind (fromGVariant managed) = some v := by
  rw [← array_arrives_iff, toGVariant, made_ofChildren]
  cases allMade (toGVariantArray G lookup vs element) with
  | none => simp
  | some gs =>
    show (fromGVariants managed gs).map Variant.vector = some (.vector vs) ↔ _
    simp

theorem tuple_arrives_iff (items : List VariantType) (vs : List (Variant ω)) :
    (made (toGVariant G lookup (.tuple vs) (.tuple items))).bind (fromGVariant managed) =
      some (.tuple vs) ↔
        (allMade (toGVariantTuple G lookup vs items)).bind (fromGVariants managed) = some vs := by
  rw [toGVariant, made_ofChildren]
  cases allMade (toGVariantTuple G lookup vs items) with
  | none => simp
  | some gs =>
    show (fromGVariants managed gs).map Variant.tuple = some (.tuple vs) ↔ _
    simp

theorem tuple_cons_arrives_iff (v : Variant ω) (vs : List (Variant ω)) (item : VariantType)
    (items : List VariantType) :
    (allMade (toGVariantTuple G lookup (v :: vs) (item :: items))).bind (fromGVariants managed) =
      some (v :: vs) ↔
        (made (toGVariant G lookup v item)).bind (fromGVariant managed) = some v ∧
          (allMade (toGVariantTuple G lookup vs items)).bind (fromGVariants managed) = some vs := by
  rw [← fromGVariants_cons_eq_some_iff, ← allMade_cons]
  rfl

mutual

/-- Which values are the same variant on the other side. -/
theorem arrives_iff (hG : G.Documented) : (t : Ty) → (x : t.Value ω) →
    (arrival G lookup managed t x = some (toVariant t x) ↔
      t.All Whole (Referable lookup managed) x)
  | .scalar _, _ => ⟨fun _ => trivial, fun _ => rfl⟩
  | .object, o => object_arrives_iff hG o
  | .string, s => string_arrives_iff hG s
  | .vector element, _ =>
    (vector_arrives_iff _ _).trans
      (List.forall_mem_map.trans (forall₂_congr fun x _ => arrives_iff hG element x))
  | .tuple elements, xs => (tuple_arrives_iff _ _).trans (arriveAll_iff hG elements xs)

theorem arriveAll_iff (hG : G.Documented) : (ts : List Ty) → (xs : Ty.Values ω ts) →
    ((allMade (toGVariantTuple G lookup (toVariants ts xs) (Ty.variantTypes ts))).bind
        (fromGVariants managed) = some (toVariants ts xs) ↔
      Ty.AllOf Whole (Referable lookup managed) ts xs)
  | [], _ => ⟨fun _ => trivial, fun _ => rfl⟩
  | t :: ts, (x, xs) =>
    (tuple_cons_arrives_iff _ _ _ _).trans
      (and_congr (arrives_iff hG t x) (arriveAll_iff hG ts xs))

end

/-- What such a value is sent as, and read as. -/
theorem sent_of_all (hG : G.Documented) {t : Ty} {x : t.Value ω}
    (h : t.All Whole (Referable lookup managed) x) :
    ∃ g, toGVariant G lookup (toVariant t x) t.variantType = .ok (some g) ∧
      fromGVariant managed g = some (toVariant t x) := by
  obtain ⟨g, hmade, hread⟩ := Option.bind_eq_some_iff.mp ((arrives_iff hG t x).mpr h)
  refine ⟨g, ?_, hread⟩
  cases hsent : toGVariant G lookup (toVariant t x) t.variantType with
  | error e =>
    rw [hsent] at hmade
    cases hmade
  | ok made =>
    rw [hsent] at hmade
    exact congrArg _ hmade

mutual

/-- Nothing is asked of the objects where there are none. -/
theorem Ty.All.imp {P : Bytes → Prop} {Q Q' : ω → Prop} : (t : Ty) → (x : t.Value ω) →
    (t.plain = true ∨ ∀ o, Q o → Q' o) → t.All P Q x → t.All P Q' x
  | .scalar _, _, _, _ => trivial
  | .object, o, hQ, h => hQ.elim (fun hplain => absurd hplain (by decide)) fun hQ => hQ o h
  | .string, _, _, h => h
  | .vector element, _, hQ, h => fun y hy => Ty.All.imp element y hQ (h y hy)
  | .tuple elements, xs, hQ, h => Ty.AllOf.imp elements xs hQ h

theorem Ty.AllOf.imp {P : Bytes → Prop} {Q Q' : ω → Prop} : (ts : List Ty) →
    (xs : Ty.Values ω ts) → (Ty.arePlain ts = true ∨ ∀ o, Q o → Q' o) → Ty.AllOf P Q ts xs →
      Ty.AllOf P Q' ts xs
  | [], _, _, _ => trivial
  | t :: ts, (x, xs), hQ, h =>
    ⟨Ty.All.imp t x (hQ.imp_left fun hplain => (Bool.and_eq_true_iff.mp hplain).1) h.1,
      Ty.AllOf.imp ts xs (hQ.imp_left fun hplain => (Bool.and_eq_true_iff.mp hplain).2) h.2⟩

end

/-- A value arrives as the variant that was sent exactly if its strings are UTF-8 without a NUL and
the path of each of its objects is one and leads back to the object; of a type without objects, it is
then read back as it was. -/
theorem transfer_eq_some_iff (hG : G.Documented) (t : Ty) (x : t.Value ω) :
    (arrival G lookup managed t x = some (toVariant t x) ↔
      t.All Whole (Referable lookup managed) x) ∧
    ∀ h : t.plain = true, transfer G lookup managed t h x = some x ↔
      t.All Whole (Referable lookup managed) x := by
  refine ⟨arrives_iff hG t x, fun h => ?_⟩
  rw [← arrives_iff hG, transfer]
  cases arrival G lookup managed t x with
  | none => simp
  | some v => simpa using fromVariant_eq_some_iff t h v x

/-- GLib as it is documented. -/
def documentedGLib : GLib where
  newString s := if ValidUtf8 s then some s else none
  newObjectPath path := if ObjectPath path then some path else none

theorem documented_documentedGLib : documentedGLib.Documented where
  newString_eq_some_iff s t _ := by
    rw [documentedGLib, Option.ite_none_right_eq_some, Option.some_inj, and_comm, eq_comm]
  newObjectPath_eq_some_iff path path' _ := by
    rw [documentedGLib, Option.ite_none_right_eq_some, Option.some_inj, and_comm, eq_comm]

/-- The name of a profile in Latin-1 does not arrive. -/
theorem transfer_eq_some_iff_latin1 :
    transfer documentedGLib (fun _ : Empty => none) (fun _ => none) .string rfl [0xe9] ≠
      some [0xe9] := by
  intro h
  have hwhole : Whole [0xe9] :=
    ((transfer_eq_some_iff documented_documentedGLib .string [0xe9]).2 rfl).mp h
  exact absurd hwhole.2 (by decide)

end Logid.Ipcgull
