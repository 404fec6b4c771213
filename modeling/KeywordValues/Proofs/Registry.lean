import KeywordValues.Proofs.Conversion
import Mathlib.Data.List.Induction
import Mathlib.Data.List.Nodup

/-!
# Which bindings form a registry

The sample of a type tells the routine of the type from all others, so a binding passes its check
exactly if it binds the type to this routine. Bindings are either sound, or one of them is the first
at fault. Hence a registry is made exactly of the permutations of the standard bindings, and every
such registry converts as the standard one does.
-/

namespace KeywordValues

/-! ## One binding -/

namespace Binding

variable {before : List Binding} {b : Binding} {e : RegistryFault}

/-- The routine makes a value of the bound type from the sample. -/
def Fits (b : Binding) : Prop := ∃ v, b.routine.run b.sample = .ok v ∧ v.dataType = b.type

/-- The fault of a binding behind others. Whether the routine fits is looked at before whether the
type is bound already. -/
inductive Fault (before : List Binding) (b : Binding) : RegistryFault → Prop
  | rejects (e : Mismatch) (h : b.routine.run b.sample = .error e) :
      Fault before b (.rejects b.type e)
  | produces (v : TypedValue) (h : b.routine.run b.sample = .ok v) (hne : v.dataType ≠ b.type) :
      Fault before b (.produces b.type v.dataType)
  | repeated (h : b.Fits) (hbound : b.type ∈ before.map type) :
      Fault before b (.repeated b.type)

/-- The sample of a type tells its own routine from all others. -/
theorem fits_iff : b.Fits ↔ b.routine.target = b.type := by
  constructor
  · rintro ⟨v, hv, ht⟩
    rw [← ht, Routine.dataType_of_run hv]
  · obtain ⟨t, ⟨u⟩⟩ := b
    intro h
    obtain rfl : u = t := h
    rcases u with k | k <;> cases k <;> exact ⟨_, rfl, rfl⟩

theorem eq_of_fits (h : b.Fits) : b = ⟨b.type, ⟨b.type⟩⟩ := by
  obtain ⟨t, ⟨u⟩⟩ := b
  obtain rfl : u = t := fits_iff.1 h
  rfl

theorem check_of_fits (h : b.Fits) : b.check = .ok () := by
  obtain ⟨v, hv, ht⟩ := h
  rw [check, hv]
  exact if_pos ht

/-- A binding fits and is new, or it is at fault. -/
theorem fits_or_fault (before : List Binding) (b : Binding) :
    (b.Fits ∧ b.type ∉ before.map type) ∨ ∃ e, b.Fault before e := by
  cases hr : b.routine.run b.sample with
  | error e => exact .inr ⟨_, .rejects e hr⟩
  | ok v =>
      by_cases ht : v.dataType = b.type
      · by_cases hb : b.type ∈ before.map type
        · exact .inr ⟨_, .repeated ⟨v, hr, ht⟩ hb⟩
        · exact .inl ⟨⟨v, hr, ht⟩, hb⟩
      · exact .inr ⟨_, .produces v hr ht⟩

end Binding

namespace Registry

variable {bs before after : List Binding} {b : Binding} {bound : List DataType}
  {e : RegistryFault} {ts us : List DataType} {r : Registry}

/-! ## The check of all bindings -/

/-- Bindings of which none is at fault: every routine fits, and no type is bound twice. -/
structure Sound (bs : List Binding) : Prop where
  fits : ∀ b ∈ bs, b.Fits
  nodup : (bs.map Binding.type).Nodup

/-- The fault of the first binding that is at fault. -/
def FirstFault (bs : List Binding) (e : RegistryFault) : Prop :=
  ∃ before b after, bs = before ++ b :: after ∧ Sound before ∧ b.Fault before e

theorem sound_concat_iff :
    Sound (bs ++ [b]) ↔ Sound bs ∧ b.Fits ∧ b.type ∉ bs.map Binding.type := by
  constructor
  · rintro ⟨hfits, hnodup⟩
    rw [List.map_append, List.map_singleton, List.nodup_append] at hnodup
    refine ⟨⟨fun c hc ↦ hfits c (List.mem_append_left _ hc), hnodup.1⟩,
      hfits b (by simp), fun hb ↦ ?_⟩
    exact hnodup.2.2 _ hb _ (List.mem_singleton_self _) rfl
  · rintro ⟨h, hb, hnew⟩
    refine ⟨fun c hc ↦ ?_, ?_⟩
    · rcases List.mem_append.1 hc with hc | hc
      · exact h.fits c hc
      · exact List.mem_singleton.1 hc ▸ hb
    · rw [List.map_append, List.map_singleton, ← List.concat_eq_append]
      exact h.nodup.concat hnew

/-- Bindings are sound, or there is a first one at fault. -/
theorem sound_or_firstFault (bs : List Binding) : Sound bs ∨ ∃ e, FirstFault bs e := by
  induction bs using List.reverseRecOn with
  | nil => exact .inl ⟨nofun, .nil⟩
  | append_singleton bs b ih =>
      rcases ih with hs | ⟨e, before, c, after, rfl, hs, hc⟩
      · rcases b.fits_or_fault bs with hb | ⟨e, he⟩
        · exact .inl (sound_concat_iff.2 ⟨hs, hb⟩)
        · exact .inr ⟨e, bs, b, [], rfl, hs, he⟩
      · exact .inr ⟨e, before, c, after ++ [b], by simp, hs, hc⟩

/-- The check goes on behind a binding that is not at fault. -/
theorem checkAll_cons (hb : b.Fits) (hnew : b.type ∉ bound) :
    checkAll bound (b :: bs) = checkAll (b.type :: bound) bs := by
  rw [checkAll, Binding.check_of_fits hb]
  exact if_neg hnew

/-- The check goes on behind sound bindings, of which it knows the types. -/
theorem checkAll_append (h : Sound before) (after : List Binding) :
    checkAll [] (before ++ after) = checkAll (before.map Binding.type).reverse after := by
  induction before using List.reverseRecOn generalizing after with
  | nil => rfl
  | append_singleton bs b ih =>
      obtain ⟨hs, hb, hnew⟩ := sound_concat_iff.1 h
      rw [List.append_assoc, ih hs, List.singleton_append,
        checkAll_cons hb (List.mem_reverse.not.2 hnew)]
      simp

theorem checkAll_of_fault (h : b.Fault before e) :
    checkAll (before.map Binding.type).reverse (b :: after) = .error e := by
  cases h with
  | rejects e hr => rw [checkAll, Binding.check, hr]
  | produces v hr hne =>
      rw [checkAll, Binding.check, hr]
      simp only [if_neg hne]
  | repeated hb hbound =>
      rw [checkAll, Binding.check_of_fits hb]
      exact if_pos (List.mem_reverse.2 hbound)

theorem checkAll_of_firstFault (h : FirstFault bs e) : checkAll [] bs = .error e := by
  obtain ⟨before, b, after, rfl, hs, hb⟩ := h
  rw [checkAll_append hs]
  exact checkAll_of_fault hb

theorem checkAll_of_sound (h : Sound bs) : checkAll [] bs = .ok (bs.map Binding.type).reverse := by
  have happend := checkAll_append h []
  rwa [List.append_nil] at happend

/-! ## Types without a binding -/

/-- The types without a binding, in declaration order. There is at least one. -/
structure Unbound (bs : List Binding) (ts : List DataType) : Prop where
  ne_nil : ts ≠ []
  ordered : ts.Pairwise (·.rank < ·.rank)
  mem_iff : ∀ t, t ∈ ts ↔ t ∉ bs.map Binding.type

theorem mem_missing_iff {t : DataType} : t ∈ missing bs ↔ t ∉ bs.map Binding.type := by
  simp [missing, DataType.mem_all]

theorem unbound_missing (h : missing bs ≠ []) : Unbound bs (missing bs) where
  ne_nil := h
  ordered := by
    have hall : DataType.all.Pairwise (·.rank < ·.rank) := by decide
    exact hall.filter _
  mem_iff _ := mem_missing_iff

/-- The types without a binding are listed in one way only. -/
theorem Unbound.unique (ht : Unbound bs ts) (hu : Unbound bs us) : ts = us := by
  have hne {t u : DataType} (h : t.rank < u.rank) : t ≠ u := fun htu ↦
    Nat.ne_of_lt h (congrArg DataType.rank htu)
  have hp : ts.Perm us :=
    (List.perm_ext_iff_of_nodup (ht.ordered.imp hne) (hu.ordered.imp hne)).2 fun t ↦
      (ht.mem_iff t).trans (hu.mem_iff t).symm
  exact hp.eq_of_pairwise (fun t u _ _ htu hut ↦ absurd hut (Nat.lt_asymm htu)) ht.ordered
    hu.ordered

/-! ## Registries -/

/-- Bindings that are sound and leave no type out are the standard ones in some order. -/
theorem perm_standardBindings_iff : bs.Perm standardBindings ↔ Sound bs ∧ missing bs = [] := by
  have htypes : standardBindings.map Binding.type = DataType.all := by decide
  constructor
  · intro h
    have hp : (bs.map Binding.type).Perm DataType.all := htypes ▸ h.map _
    refine ⟨⟨fun b hb ↦ ?_, hp.nodup_iff.2 (by decide)⟩, List.eq_nil_iff_forall_not_mem.2 ?_⟩
    · obtain ⟨t, -, rfl⟩ := List.mem_map.1 (h.mem_iff.1 hb)
      exact Binding.fits_iff.2 rfl
    · intro t ht
      exact mem_missing_iff.1 ht (hp.mem_iff.2 (DataType.mem_all t))
  · rintro ⟨hs, hm⟩
    have hbound (t : DataType) : t ∈ bs.map Binding.type := by
      by_contra ht
      exact List.not_mem_nil (hm ▸ mem_missing_iff.2 ht)
    have hp : (bs.map Binding.type).Perm DataType.all :=
      (List.perm_ext_iff_of_nodup hs.nodup (by decide)).2 fun t ↦
        iff_of_true (hbound t) (DataType.mem_all t)
    have hbs : bs = (bs.map Binding.type).map fun t ↦ ⟨t, ⟨t⟩⟩ := by
      rw [List.map_map]
      exact (List.map_id bs).symm.trans
        (List.map_congr_left fun b hb ↦ Binding.eq_of_fits (hs.fits b hb))
    exact (List.Perm.of_eq hbs).trans (hp.map _)

/-- What can become of bindings. -/
theorem ofBindings_cases (bs : List Binding) :
    (∃ e, FirstFault bs e ∧ ofBindings bs = .error e) ∨
      (Sound bs ∧ Unbound bs (missing bs) ∧ ofBindings bs = .error (.unbound (missing bs))) ∨
      ∃ h, bs.Perm standardBindings ∧ ofBindings bs = .ok ⟨bs, h⟩ := by
  rcases sound_or_firstFault bs with hs | ⟨e, he⟩
  · by_cases hm : missing bs = []
    · refine .inr (.inr ⟨total_of_missing hm, perm_standardBindings_iff.2 ⟨hs, hm⟩, ?_⟩)
      rw [ofBindings, checkAll_of_sound hs]
      exact dif_pos hm
    · refine .inr (.inl ⟨hs, unbound_missing hm, ?_⟩)
      rw [ofBindings, checkAll_of_sound hs]
      exact dif_neg hm
  · refine .inl ⟨e, he, ?_⟩
    rw [ofBindings, checkAll_of_firstFault he]

theorem not_sound_of_firstFault (h : FirstFault bs e) : ¬ Sound bs := by
  intro hs
  cases (checkAll_of_firstFault h).symm.trans (checkAll_of_sound hs)

theorem FirstFault.unique {e' : RegistryFault} (h : FirstFault bs e) (h' : FirstFault bs e') :
    e = e' :=
  Except.error.inj ((checkAll_of_firstFault h).symm.trans (checkAll_of_firstFault h'))

/-- A registry binds each type to its own routine. -/
theorem binding_of_perm (h : r.bindings.Perm standardBindings) (t : DataType) :
    r.binding t = ⟨t, ⟨t⟩⟩ := by
  have hfind : r.bindings.find? (·.type = t) = some (r.binding t) := (Option.some_get _).symm
  have htype : (r.binding t).type = t := by simpa using List.find?_some hfind
  have hfits := (perm_standardBindings_iff.1 h).1.fits _ (List.mem_of_find?_eq_some hfind)
  rw [Binding.eq_of_fits hfits, htype]

/-- Bindings make a registry exactly if they are the standard bindings in some order. Such a
registry has a binding for each type, lists them in declaration order and converts by them as the
standard registry does. Otherwise the first binding at fault decides the error, and types without a
binding do only if there is none. -/
theorem ofBindings_iff_perm (bs : List Binding) :
    ((∃ r, ofBindings bs = .ok r) ↔ bs.Perm standardBindings) ∧
    (∀ r, ofBindings bs = .ok r →
      (∀ t, bs.find? (·.type = t) = some (r.binding t)) ∧
        r.toList.map Binding.type = DataType.all ∧
        ∀ t node, r.convert t node = t.convert node) ∧
    (∀ e, ofBindings bs = .error e ↔
      FirstFault bs e ∨ (Sound bs ∧ ∃ ts, Unbound bs ts ∧ e = .unbound ts)) := by
  rcases ofBindings_cases bs with ⟨e, he, hr⟩ | ⟨hs, hu, hr⟩ | ⟨htotal, hp, hr⟩
  · have hn : ¬ Sound bs := not_sound_of_firstFault he
    simp only [hr]
    refine ⟨iff_of_false nofun fun hp ↦ hn (perm_standardBindings_iff.1 hp).1, nofun,
      fun e' ↦ ⟨?_, ?_⟩⟩
    · rintro ⟨⟩
      exact .inl he
    · rintro (he' | ⟨hs, -⟩)
      · rw [he.unique he']
      · exact absurd hs hn
  · simp only [hr]
    refine ⟨iff_of_false nofun fun hp ↦ hu.ne_nil (perm_standardBindings_iff.1 hp).2, nofun,
      fun e' ↦ ⟨?_, ?_⟩⟩
    · rintro ⟨⟩
      exact .inr ⟨hs, _, hu, rfl⟩
    · rintro (he' | ⟨-, ts, hts, rfl⟩)
      · exact absurd hs (not_sound_of_firstFault he')
      · rw [hts.unique hu]
  · obtain ⟨hs, hm⟩ := perm_standardBindings_iff.1 hp
    simp only [hr]
    refine ⟨iff_of_true ⟨_, rfl⟩ hp, ?_, fun e ↦ iff_of_false nofun ?_⟩
    · rintro r ⟨⟩
      refine ⟨fun t ↦ (Option.some_get _).symm, ?_, fun t node ↦ ?_⟩
      · rw [toList, List.map_map]
        refine (List.map_congr_left fun t _ ↦ ?_).trans (List.map_id _)
        exact congrArg Binding.type (binding_of_perm hp t)
      · rw [convert, binding_of_perm hp, DataType.convert_eq_run]
    · rintro (he | ⟨-, ts, hts, -⟩)
      · exact not_sound_of_firstFault he hs
      · obtain ⟨t, ht⟩ := List.exists_mem_of_ne_nil ts hts.ne_nil
        exact List.not_mem_nil (hm ▸ mem_missing_iff.2 ((hts.mem_iff t).1 ht))

/-- The standard bindings backwards make a registry, which lists them in declaration order. -/
theorem ofBindings_reverse_standardBindings :
    ∃ r, ofBindings standardBindings.reverse = .ok r ∧
      r.toList.map Binding.type = DataType.all := by
  obtain ⟨r, hr⟩ := (ofBindings_iff_perm standardBindings.reverse).1.2 (List.reverse_perm _)
  exact ⟨r, hr, ((ofBindings_iff_perm standardBindings.reverse).2.1 r hr).2.1⟩

end Registry

end KeywordValues
