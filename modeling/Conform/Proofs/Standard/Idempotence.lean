import Conform.Proofs.Date.Signed
import Conform.Proofs.Number.Value
import Conform.Proofs.Standard.Coercion

/-!
# Coercing twice

A coercion of the core types leaves alone what it made.  All but the one to dates make values of
their kind, which they decline.  The one to dates makes canonical texts: it reads most of them back
as the same text, and does not read the others, which are no dates.
-/

namespace Conform

namespace Coercion

variable {x y : Json}

/-- A coercion that declines what it made is settled after one step. -/
theorem applyAll_singleton_again {f : Json → Option Json} (h : ∀ y, f x = some y → f y = none) :
    applyAll [f] (applyAll [f] x) = applyAll [f] x := by
  cases hx : f x with
  | none => simp [hx]
  | some y => simp [hx, h y hx]

theorem exists_num_of_toNumber (h : toNumber x = some y) : ∃ n, y = .num n := by
  cases x with
  | str s =>
      rw [toNumber, Option.orElse_eq_orElse, Option.orElse_eq_or, Option.or_eq_some_iff] at h
      rcases h with h | ⟨-, h⟩
      · obtain ⟨i, -, hi⟩ := Option.map_eq_some_iff.mp h
        exact ⟨_, hi.symm⟩
      · obtain ⟨d, -, hd⟩ := Option.map_eq_some_iff.mp h
        exact ⟨_, hd.symm⟩
  | _ => contradiction

/-- A whole number of 64 bits has integer form. -/
theorem exists_int_of_bounds {i : Int}
    (h : -9223372036854775808 ≤ i ∧ i < 9223372036854775808) :
    ∃ bounds, Json.ofInt i = .num (.int i bounds) :=
  ⟨by omega, Json.ofInt_eq _⟩

theorem bounds_of_int64Of? {cs : List Char} {i : Int} (h : Numeral.int64Of? cs = some i) :
    -9223372036854775808 ≤ i ∧ i < 9223372036854775808 := by
  simpa using (Option.filter_eq_some_iff.mp h).2

theorem exists_int_of_toInteger (h : toInteger x = some y) :
    ∃ i bounds, y = .num (.int i bounds) := by
  have hsmall {i : Int} (hi : -9223372036854775808 ≤ i ∧ i < 9223372036854775808)
      (hy : Json.ofInt i = y) : ∃ i bounds, y = .num (.int i bounds) := by
    obtain ⟨bounds, hint⟩ := exists_int_of_bounds hi
    exact ⟨i, bounds, hy.symm.trans hint⟩
  unfold toInteger at h
  split at h
  · obtain ⟨i, hi, hy⟩ := Option.map_eq_some_iff.mp h
    rw [Option.orElse_eq_orElse, Option.orElse_eq_or, Option.or_eq_some_iff] at hi
    rcases hi with hi | ⟨-, hi⟩
    · exact hsmall (bounds_of_int64Of? hi) hy
    · obtain ⟨d, -, hd⟩ := Option.bind_eq_some_iff.mp hi
      exact hsmall (Double.bounds_of_toInt? hd) hy
  · obtain ⟨i, hi, hy⟩ := Option.map_eq_some_iff.mp h
    exact hsmall (Double.bounds_of_toInt? hi) hy
  · contradiction

theorem exists_bool_of_toBoolean (h : toBoolean x = some y) : ∃ b, y = .bool b := by
  unfold toBoolean at h
  split at h
  · simp only at h
    split at h
    · exact ⟨true, (Option.some.inj h).symm⟩
    · split at h
      · exact ⟨false, (Option.some.inj h).symm⟩
      · contradiction
  · split at h
    · exact ⟨true, (Option.some.inj h).symm⟩
    · exact ⟨false, (Option.some.inj h).symm⟩
    · contradiction
  · contradiction

theorem accepts_of_ofJsonText {k : Kind} (h : ofJsonText k x = some y) : k.accepts y = true := by
  cases x with
  | str s => exact (Option.filter_eq_some_iff.mp h).2
  | _ => contradiction

end Coercion

namespace Standard

open Coercion

variable {k : Kind} {f : Json → Option Json} {x y : Json}

/-- A coercion of a kind other than dates makes values of the kind. -/
theorem accepts_of_coercionOf (hf : coercionOf k = some f) (hdate : k ≠ .date)
    (h : f x = some y) : k.accepts y = true := by
  cases k with
  | any => contradiction
  | string => contradiction
  | date => contradiction
  | object =>
      obtain rfl := Option.some.inj hf
      exact accepts_of_ofJsonText h
  | array =>
      obtain rfl := Option.some.inj hf
      exact accepts_of_ofJsonText h
  | number =>
      obtain rfl := Option.some.inj hf
      obtain ⟨n, rfl⟩ := exists_num_of_toNumber h
      rfl
  | integer =>
      obtain rfl := Option.some.inj hf
      obtain ⟨i, bounds, rfl⟩ := exists_int_of_toInteger h
      rfl
  | boolean =>
      obtain rfl := Option.some.inj hf
      obtain ⟨b, rfl⟩ := exists_bool_of_toBoolean h
      rfl

/-- A coercion of the core types declines what it made. -/
theorem coercionOf_again (hf : coercionOf k = some f) (h : f x = some y) : f y = none := by
  by_cases hdate : k = .date
  · subst hdate
    obtain rfl : toDate = f := Option.some.inj hf
    exact toDate_again h
  · exact coercionOf_accepted hf hdate (accepts_of_coercionOf hf hdate h)

theorem applyAll_coercionOf_again (k : Kind) (x : Json) :
    applyAll (coercionOf k).toList (applyAll (coercionOf k).toList x) =
      applyAll (coercionOf k).toList x := by
  cases hf : coercionOf k with
  | none => rfl
  | some f => exact applyAll_singleton_again fun y hy => coercionOf_again hf hy

/-- The handlers of the core types are the coercions of six kinds. -/
theorem handler_eq_coercion {e : HandlerEntry} (he : e ∈ coreTypes.handlers) :
    ∃ f, coercionOf e.kind = some f ∧ e.handler = coercion f := by
  simp only [coreTypes, List.mem_cons, List.not_mem_nil, or_false] at he
  rcases he with rfl | rfl | rfl | rfl | rfl | rfl
  · exact ⟨toNumber, rfl, rfl⟩
  · exact ⟨toInteger, rfl, rfl⟩
  · exact ⟨toBoolean, rfl, rfl⟩
  · exact ⟨toDate, rfl, rfl⟩
  · exact ⟨ofJsonText .object, rfl, rfl⟩
  · exact ⟨ofJsonText .array, rfl, rfl⟩

/-- The core types have a coercion for six kinds.  On every value, coercing twice is coercing once,
whether the outcome has the type or not.  A coercion of a kind other than dates leaves the values of
its kind alone. -/
theorem coreTypes_idempotent :
    coreTypes.handlers.map HandlerEntry.kind =
        [.number, .integer, .boolean, .date, .object, .array] ∧
      ∀ e ∈ coreTypes.handlers, e.format = none ∧ ∃ f, e.handler = coercion f ∧
        (∀ v, applyAll [f] (applyAll [f] v) = applyAll [f] v) ∧
        (e.kind ≠ .date → ∀ v, e.kind.accepts v = true → applyAll [f] v = v) := by
  refine ⟨rfl, fun e he => ⟨?_, ?_⟩⟩
  · revert e
    simp [coreTypes]
  · obtain ⟨f, hf, hhandler⟩ := handler_eq_coercion he
    refine ⟨f, hhandler, fun v => applyAll_singleton_again fun y hy => coercionOf_again hf hy,
      fun hdate v hv => applyAll_of_declines ?_⟩
    simpa using coercionOf_accepted hf hdate hv

end Standard

end Conform
