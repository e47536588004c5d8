import Conform.Json.Reader
import Conform.Proofs.Fields

/-!
# Distinct names

An object has each name once.  The type of values does not say so, as its constructors cannot speak
of the values inside, but reading makes no others: a name that comes again takes the place of the
first one.
-/

namespace Conform

namespace Json

/-- A value in which every object has each name once. -/
inductive Distinct : Json → Prop where
  | null : Distinct .null
  | bool (b : Bool) : Distinct (.bool b)
  | num (n : Number) : Distinct (.num n)
  | str (s : String) : Distinct (.str s)
  | arr {items : List Json} (inside : ∀ v ∈ items, Distinct v) : Distinct (.arr items)
  | obj {fields : List (String × Json)} (names : (fields.map Prod.fst).Nodup)
    (inside : ∀ f ∈ fields, Distinct f.2) : Distinct (.obj fields)

/-- A reader makes values with distinct names only. -/
def ReadsDistinct (r : Reader Json) : Prop :=
  ∀ ⦃cs v rest⦄, r cs = some (v, rest) → v.Distinct

section

variable {item : Reader Json} {fuel : Nat} {cs rest : List Char}

theorem distinct_of_itemsWith (hitem : ReadsDistinct item) {vs : List Json}
    (h : itemsWith item fuel cs = some (vs, rest)) : ∀ v ∈ vs, v.Distinct := by
  induction fuel generalizing cs vs rest with
  | zero => contradiction
  | succ fuel ih =>
      rw [itemsWith, Option.bind_eq_bind, Option.bind_eq_some_iff] at h
      obtain ⟨⟨v, after⟩, hv, h⟩ := h
      have hfirst : v.Distinct := hitem hv
      simp only at h
      split at h
      · obtain ⟨rfl, -⟩ := Prod.mk.inj (Option.some.inj h)
        exact List.forall_mem_singleton.mpr hfirst
      · rw [Option.bind_eq_bind, Option.bind_eq_some_iff] at h
        obtain ⟨⟨vs', after'⟩, hvs, h⟩ := h
        obtain ⟨rfl, -⟩ := Prod.mk.inj (Option.some.inj h)
        exact List.forall_mem_cons.mpr ⟨hfirst, ih hvs⟩
      · contradiction

theorem distinct_of_entriesWith (hitem : ReadsDistinct item) {es : List (String × Json)}
    (h : entriesWith item fuel cs = some (es, rest)) : ∀ e ∈ es, e.2.Distinct := by
  induction fuel generalizing cs es rest with
  | zero => contradiction
  | succ fuel ih =>
      rw [entriesWith, Option.bind_eq_bind, Option.bind_eq_some_iff] at h
      obtain ⟨⟨name, after⟩, -, h⟩ := h
      simp only at h
      split at h
      · rw [Option.bind_eq_bind, Option.bind_eq_some_iff] at h
        obtain ⟨⟨v, after⟩, hv, h⟩ := h
        have hfirst : v.Distinct := hitem hv
        simp only at h
        split at h
        · obtain ⟨rfl, -⟩ := Prod.mk.inj (Option.some.inj h)
          exact List.forall_mem_singleton.mpr hfirst
        · rw [Option.bind_eq_bind, Option.bind_eq_some_iff] at h
          obtain ⟨⟨es', after'⟩, hes, h⟩ := h
          obtain ⟨rfl, -⟩ := Prod.mk.inj (Option.some.inj h)
          exact List.forall_mem_cons.mpr ⟨hfirst, ih hes⟩
        · contradiction
      · contradiction

end

namespace ReadsDistinct

variable {item : Reader Json}

theorem arrayWith (hitem : ReadsDistinct item) : ReadsDistinct (arrayWith item) := by
  intro cs v rest h
  rw [Json.arrayWith] at h
  split at h
  · obtain ⟨rfl, -⟩ := Prod.mk.inj (Option.some.inj h)
    exact .arr nofun
  · rw [Option.bind_eq_bind, Option.bind_eq_some_iff] at h
    obtain ⟨⟨vs, after⟩, hvs, h⟩ := h
    obtain ⟨rfl, -⟩ := Prod.mk.inj (Option.some.inj h)
    exact .arr (distinct_of_itemsWith hitem hvs)

theorem objectWith (hitem : ReadsDistinct item) : ReadsDistinct (objectWith item) := by
  intro cs v rest h
  rw [Json.objectWith] at h
  split at h
  · obtain ⟨rfl, -⟩ := Prod.mk.inj (Option.some.inj h)
    exact .obj List.nodup_nil nofun
  · rw [Option.bind_eq_bind, Option.bind_eq_some_iff] at h
    obtain ⟨⟨es, after⟩, hes, h⟩ := h
    obtain ⟨rfl, -⟩ := Prod.mk.inj (Option.some.inj h)
    refine .obj (Fields.nodup_ofEntries es) fun f hf => ?_
    exact distinct_of_entriesWith hitem hes f (Fields.mem_ofEntries hf)

/-- Only arrays and objects have values inside. -/
theorem valueWith {nested : Option (Reader Json)} (hnested : ∀ r ∈ nested, ReadsDistinct r) :
    ReadsDistinct (valueWith nested) := by
  intro cs v rest h
  rw [Json.valueWith] at h
  split at h
  · obtain ⟨rfl, -⟩ := Prod.mk.inj (Option.some.inj h)
    exact .null
  · obtain ⟨rfl, -⟩ := Prod.mk.inj (Option.some.inj h)
    exact .bool true
  · obtain ⟨rfl, -⟩ := Prod.mk.inj (Option.some.inj h)
    exact .bool false
  · rw [Option.bind_eq_bind, Option.bind_eq_some_iff] at h
    obtain ⟨⟨s, after⟩, -, h⟩ := h
    obtain ⟨rfl, -⟩ := Prod.mk.inj (Option.some.inj h)
    exact .str _
  · obtain ⟨r, hr, h⟩ := Option.bind_eq_some_iff.mp h
    exact (hnested r hr).arrayWith h
  · obtain ⟨r, hr, h⟩ := Option.bind_eq_some_iff.mp h
    exact (hnested r hr).objectWith h
  · rw [Option.bind_eq_bind, Option.bind_eq_some_iff] at h
    obtain ⟨⟨n, after⟩, -, h⟩ := h
    obtain ⟨rfl, -⟩ := Prod.mk.inj (Option.some.inj h)
    exact .num n

theorem value (depth : Nat) : ReadsDistinct (value depth) := by
  induction depth with
  | zero => exact valueWith nofun
  | succ depth ih =>
      refine valueWith ?_
      rintro r ⟨⟩
      exact ih

end ReadsDistinct

/-- A value that is read from text has distinct names. -/
theorem distinct_of_parse? {s : String} {v : Json} (h : parse? s = some v) : v.Distinct := by
  rw [parse?, Option.bind_eq_bind, Option.bind_eq_some_iff] at h
  obtain ⟨⟨w, rest⟩, hread, h⟩ := h
  simp only at h
  split at h
  · exact Option.some.inj h ▸ ReadsDistinct.value maxDepth hread
  · contradiction

end Json

end Conform
