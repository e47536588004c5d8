import Conform.Json.Basic
import Conform.Proofs.Fields
import Conform.Proofs.Number.Value
import Mathlib.Data.List.Forall2
import Mathlib.Data.List.Perm.Subperm
import Mathlib.Data.Option.Basic

/-!
# Equality of values

Equality of values is compared item by item and name by name: arrays are equal when their items
are, in order, and objects are equal when under every name stand equal values, or none in both.
-/

namespace Conform

namespace Number

variable {a b c : Number}

/-- Numbers are equal when they have one form and one value. -/
theorem same_iff : a.same b = true ↔ a.isFloat = b.isFloat ∧ a.value = b.value := by
  cases a with
  | int i _ => cases b <;> simp [same, isFloat, value]
  | float x => cases b <;> simp [same, isFloat, value, Double.same_iff]

theorem same_refl (n : Number) : n.same n = true :=
  same_iff.mpr ⟨rfl, rfl⟩

theorem same_symm (h : a.same b = true) : b.same a = true := by
  obtain ⟨hform, hvalue⟩ := same_iff.mp h
  exact same_iff.mpr ⟨hform.symm, hvalue.symm⟩

theorem same_trans (h : a.same b = true) (h' : b.same c = true) : a.same c = true := by
  obtain ⟨hform, hvalue⟩ := same_iff.mp h
  obtain ⟨hform', hvalue'⟩ := same_iff.mp h'
  exact same_iff.mpr ⟨hform.trans hform', hvalue.trans hvalue'⟩

end Number

namespace Json

/-- Equality of values as a relation. -/
def Same (a b : Json) : Prop :=
  a.same b = true

/-- Arrays are equal when they have equal items in the same order. -/
theorem same_arr_iff {as bs : List Json} : (arr as).Same (arr bs) ↔ List.Forall₂ Same as bs := by
  change sameItems as bs = true ↔ _
  induction as generalizing bs with
  | nil => cases bs <;> simp [sameItems]
  | cons a as ih =>
      cases bs with
      | nil => simp [sameItems]
      | cons b bs => simp [sameItems, Same, ih]

theorem sameFields_cons (seen : List String) (n : String) (a : Json) (rest gs : Fields Json) :
    sameFields seen ((n, a) :: rest) gs =
      ((seen.contains n || (gs.get? n).any a.same) && sameFields (n :: seen) rest gs) := by
  rw [sameFields]
  cases gs.get? n <;> rfl

theorem sameFields_iff {seen : List String} {fs gs : Fields Json} :
    sameFields seen fs gs = true ↔
      ∀ name x, name ∉ seen → fs.get? name = some x → ∃ y, gs.get? name = some y ∧ x.Same y := by
  induction fs generalizing seen with
  | nil => simp [sameFields]
  | cons f rest ih =>
      obtain ⟨n, a⟩ := f
      have hhead : (gs.get? n).any a.same = true ↔ ∃ y, gs.get? n = some y ∧ a.Same y := by
        cases gs.get? n <;> simp [Same]
      rw [sameFields_cons, Bool.and_eq_true, Bool.or_eq_true, hhead, ih]
      constructor
      · rintro ⟨hfirst, hrest⟩ name x hseen hx
        by_cases h : name = n
        · subst h
          obtain rfl : a = x := by simpa [Fields.get?_cons] using hx
          exact hfirst.resolve_left (by simpa using hseen)
        · exact hrest name x (by simp [h, hseen]) (by simpa [Fields.get?_cons, h] using hx)
      · intro h
        constructor
        · by_cases hn : n ∈ seen
          · exact Or.inl (by simpa using hn)
          · exact Or.inr (h n a hn (by simp [Fields.get?_cons]))
        · intro name x hseen hx
          simp only [List.mem_cons, not_or] at hseen
          exact h name x hseen.2 (by simpa [Fields.get?_cons, hseen.1] using hx)

/-- Objects are equal when under every name stand equal values, or none in both. -/
theorem same_obj_iff {fs gs : Fields Json} :
    (obj fs).Same (obj gs) ↔ ∀ name, Option.Rel Same (fs.get? name) (gs.get? name) := by
  have hsplit : (obj fs).Same (obj gs) ↔
      fs.keys.length = gs.keys.length ∧
        ∀ name x, fs.get? name = some x → ∃ y, gs.get? name = some y ∧ x.Same y := by
    change (((Fields.keys fs).length == (Fields.keys gs).length) && sameFields [] fs gs) = true ↔ _
    rw [Bool.and_eq_true, beq_iff_eq, sameFields_iff]
    simp
  rw [hsplit]
  constructor
  · rintro ⟨hlength, hfound⟩ name
    have hsubset : fs.keys ⊆ gs.keys := by
      intro n hn
      obtain ⟨x, hx⟩ := Option.isSome_iff_exists.mp (Fields.mem_keys_iff.mp hn)
      obtain ⟨y, hy, -⟩ := hfound n x hx
      exact Fields.mem_keys_iff.mpr (by simp [hy])
    -- As many names in both objects, and those of the first in the second: they are the same.
    have hperm : fs.keys.Perm gs.keys :=
      ((Fields.nodup_distinct fs).subperm hsubset).perm_of_length_le (Nat.le_of_eq hlength.symm)
    cases hx : fs.get? name with
    | some x =>
        obtain ⟨y, hy, hxy⟩ := hfound name x hx
        rw [hy]
        exact .some hxy
    | none =>
        cases hy : gs.get? name with
        | none => exact .none
        | some y =>
            have hmem : name ∈ fs.keys :=
              hperm.mem_iff.mpr (Fields.mem_keys_iff.mpr (by simp [hy]))
            rw [Fields.mem_keys_iff, hx] at hmem
            contradiction
  · intro h
    have hkeys : ∀ name, name ∈ fs.keys ↔ name ∈ gs.keys := by
      intro name
      have hname := h name
      rw [Fields.mem_keys_iff, Fields.mem_keys_iff]
      generalize fs.get? name = x, gs.get? name = y at hname
      cases hname <;> simp
    constructor
    · exact (Fields.keys_perm hkeys).length_eq
    · intro name x hx
      have hname := h name
      rw [hx] at hname
      generalize gs.get? name = o at hname
      cases hname with
      | some hxy => exact ⟨_, rfl, hxy⟩

/-! ### Equality as an equivalence -/

/-- Induction over a value, through the items of arrays and the values under the names of
objects. -/
theorem induction {P : Json → Prop} (null : P .null) (bool : ∀ b, P (.bool b))
    (num : ∀ n, P (.num n)) (str : ∀ s, P (.str s))
    (arr : ∀ items, (∀ x ∈ items, P x) → P (.arr items))
    (obj : ∀ fields : Fields Json, (∀ name x, fields.get? name = some x → P x) →
      P (.obj fields)) : ∀ v : Json, P v
  | .null => null
  | .bool b => bool b
  | .num n => num n
  | .str s => str s
  | .arr items => arr items fun x _ => induction null bool num str arr obj x
  | .obj fields => obj fields fun name x _ => induction null bool num str arr obj x
termination_by v => sizeOf v
decreasing_by
  · have hlt := List.sizeOf_lt_of_mem ‹x ∈ items›
    simp only [Json.arr.sizeOf_spec]
    omega
  · have hlt := List.sizeOf_lt_of_mem (Fields.mem_of_get? ‹Fields.get? fields name = some x›)
    simp only [Prod.mk.sizeOf_spec] at hlt
    simp only [Json.obj.sizeOf_spec]
    omega

/-- Equal values have one form, and are equal part by part. -/
inductive SameForm : Json → Json → Prop where
  | null : SameForm .null .null
  | bool (b : Bool) : SameForm (.bool b) (.bool b)
  | num {m n : Number} (same : m.same n = true) : SameForm (.num m) (.num n)
  | str (s : String) : SameForm (.str s) (.str s)
  | arr {as bs : List Json} (items : List.Forall₂ Same as bs) : SameForm (.arr as) (.arr bs)
  | obj {fs gs : Fields Json} (fields : ∀ name, Option.Rel Same (fs.get? name) (gs.get? name)) :
      SameForm (.obj fs) (.obj gs)

theorem sameForm_of_same {v w : Json} (h : v.Same w) : SameForm v w := by
  cases v with
  | null =>
      cases w with
      | null => exact .null
      | _ => contradiction
  | bool a =>
      cases w with
      | bool b =>
          obtain rfl : a = b := beq_iff_eq.mp h
          exact .bool a
      | _ => contradiction
  | num m =>
      cases w with
      | num n => exact .num h
      | _ => contradiction
  | str s =>
      cases w with
      | str s' =>
          obtain rfl : s = s' := beq_iff_eq.mp h
          exact .str s
      | _ => contradiction
  | arr as =>
      cases w with
      | arr bs => exact .arr (same_arr_iff.mp h)
      | _ => contradiction
  | obj fs =>
      cases w with
      | obj gs => exact .obj (same_obj_iff.mp h)
      | _ => contradiction

/-- Every value is equal to itself. -/
theorem same_refl (v : Json) : v.Same v := by
  induction v using induction with
  | null => rfl
  | bool b => simp [Same, same]
  | num n => exact n.same_refl
  | str s => simp [Same, same]
  | arr items ih => exact same_arr_iff.mpr (List.forall₂_same.mpr ih)
  | obj fields ih =>
      rw [same_obj_iff]
      intro name
      cases hx : fields.get? name with
      | none => exact .none
      | some x => exact .some (ih name x hx)

theorem same_symm {v w : Json} (h : v.Same w) : w.Same v := by
  induction v using induction generalizing w with
  | null =>
      cases sameForm_of_same h
      exact h
  | bool b =>
      cases sameForm_of_same h
      exact h
  | num m =>
      cases sameForm_of_same h with
      | num hsame => exact Number.same_symm hsame
  | str s =>
      cases sameForm_of_same h
      exact h
  | arr items ih =>
      cases sameForm_of_same h with
      | arr hitems =>
          obtain ⟨hlength, hget⟩ := List.forall₂_iff_get.mp hitems
          refine same_arr_iff.mpr (List.forall₂_iff_get.mpr ⟨hlength.symm, ?_⟩)
          intro i hj hi
          exact ih _ (List.get_mem _ _) (hget i hi hj)
  | obj fields ih =>
      cases sameForm_of_same h with
      | @obj _ gs hfields =>
          rw [same_obj_iff]
          intro name
          have hname := hfields name
          generalize hx : fields.get? name = x, gs.get? name = y at hname ⊢
          cases hname with
          | none => exact .none
          | some hxy => exact .some (ih name _ hx hxy)

theorem same_trans {u v w : Json} (h : u.Same v) (h' : v.Same w) : u.Same w := by
  induction u using induction generalizing v w with
  | null =>
      cases sameForm_of_same h
      exact h'
  | bool b =>
      cases sameForm_of_same h
      exact h'
  | num m =>
      cases sameForm_of_same h with
      | num hsame =>
          cases sameForm_of_same h' with
          | num hsame' => exact Number.same_trans hsame hsame'
  | str s =>
      cases sameForm_of_same h
      exact h'
  | arr items ih =>
      cases sameForm_of_same h with
      | arr hitems =>
          cases sameForm_of_same h' with
          | arr hitems' =>
              obtain ⟨hlength, hget⟩ := List.forall₂_iff_get.mp hitems
              obtain ⟨hlength', hget'⟩ := List.forall₂_iff_get.mp hitems'
              refine same_arr_iff.mpr (List.forall₂_iff_get.mpr ⟨hlength.trans hlength', ?_⟩)
              intro i hi hk
              exact ih _ (List.get_mem _ _) (hget i hi (hlength ▸ hi))
                (hget' i (hlength ▸ hi) hk)
  | obj fields ih =>
      cases sameForm_of_same h with
      | @obj _ gs hfields =>
          cases sameForm_of_same h' with
          | @obj _ hs hfields' =>
              rw [same_obj_iff]
              intro name
              have hname := hfields name
              have hname' := hfields' name
              generalize hx : fields.get? name = x, gs.get? name = y, hs.get? name = z
                at hname hname' ⊢
              cases hname with
              | none =>
                  cases hname' with
                  | none => exact .none
              | some hxy =>
                  cases hname' with
                  | some hyz => exact .some (ih name _ hx hxy hyz)

/-- Every value is the same option as itself. -/
theorem sameOption_refl (v : Json) : v.sameOption v = true := by
  cases v with
  | num n =>
      rw [sameOption, Number.sameValue]
      split
      · simp [Double.same]
      · exact Number.same_refl n
  | null => exact same_refl .null
  | bool b => exact same_refl (.bool b)
  | str s => exact same_refl (.str s)
  | arr items => exact same_refl (.arr items)
  | obj fields => exact same_refl (.obj fields)

theorem rel_same_refl (x : Option Json) : Option.Rel Same x x := by
  cases x with
  | none => exact .none
  | some v => exact .some (same_refl v)

end Json
end Conform
