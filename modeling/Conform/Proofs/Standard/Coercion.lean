import Conform.Proofs.Schema.Phases
import Conform.Proofs.Standard.Handlers

/-!
# What coercions make of a value, and what they leave alone

A node without a coercion of the caller's own checks what the coercions of its table make of the
value.  The standard coercions have nothing to say about `null`, and nothing about a value that
already has the type they lead to.  Dates are the exception: a text that reads as a date-time can
still be brought into its canonical form.
-/

namespace Conform

/-- What the coercions of a node make of a value. -/
def Node.coerced (n : Node) (fs : Traits → List (Json → Option Json)) (x : Json) : Json :=
  if n.strict then x else Coercion.applyAll (fs n.toTraits) x

/-- The value of a node without a coercion of its own is checked after those of its handlers. -/
theorem Node.ready_eq {n : Node} {t : Treatment} {cs : List (Json → Option Json)} {v : Visit}
    {x : Json} (ht : t.coerce = cs.map fun f v => f v.current) (hcoerce : n.coerce = none)
    (hx : (n.prepare t v).value = some x) :
    n.ready t v = (n.prepare t v).set (if n.strict then x else Coercion.applyAll cs x) := by
  rw [ready, runCoerce]
  by_cases hstrict : n.strict = true
  · rw [if_pos hstrict, if_pos hstrict]
    generalize n.prepare t v = w at hx ⊢
    obtain ⟨value, root, path, issues⟩ := w
    subst hx
    rfl
  · rw [if_neg hstrict, if_neg hstrict]
    simp only [hcoerce, ht, Option.toList_none, List.append_nil] at hx ⊢
    exact Visit.transform_values _ hx

theorem Schema.ready_eq {s : Schema} {t : Table Schema} {fs : Traits → List (Json → Option Json)}
    {v : Visit} {x : Json} (ht : t.CoercesBy fs) (hs : s.table = t) (hcoerce : s.node.coerce = none)
    (hx : (s.node.prepare s.treatment v).value = some x) :
    s.node.ready s.treatment v = (s.node.prepare s.treatment v).set (s.node.coerced fs x) :=
  Node.ready_eq (ht.coerce_treatment hs) hcoerce hx

namespace Standard

theorem ready_eq {n : Node} {v : Visit} {x : Json} (hcoerce : n.coerce = none)
    (hx : (n.prepare (treatmentOf n.toTraits) v).value = some x) :
    n.ready (treatmentOf n.toTraits) v = (n.prepare (treatmentOf n.toTraits) v).set
      (n.coerced (fun tr => (coercionOf tr.kind).toList) x) :=
  Node.ready_eq rfl hcoerce hx

theorem coercionOf_null {k : Kind} {f : Json → Option Json} (hf : coercionOf k = some f) :
    f .null = none := by
  cases k with
  | any => contradiction
  | string => contradiction
  | object => exact Option.some.inj hf ▸ rfl
  | array => exact Option.some.inj hf ▸ rfl
  | number => exact Option.some.inj hf ▸ rfl
  | integer => exact Option.some.inj hf ▸ rfl
  | boolean => exact Option.some.inj hf ▸ rfl
  | date => exact Option.some.inj hf ▸ rfl

theorem coerced_null (n : Node) :
    n.coerced (fun tr => (coercionOf tr.kind).toList) .null = .null := by
  unfold Node.coerced
  split
  · rfl
  · apply Coercion.applyAll_of_declines
    intro f hf
    exact coercionOf_null (by simpa using hf)

/-- A coercion of a kind other than dates declines the values of its kind. -/
theorem coercionOf_accepted {k : Kind} {f : Json → Option Json} (hf : coercionOf k = some f)
    (hdate : k ≠ .date) {y : Json} (hy : k.accepts y = true) : f y = none := by
  cases k with
  | any => contradiction
  | string => contradiction
  | date => contradiction
  | object =>
      obtain rfl : Coercion.ofJsonText .object = f := Option.some.inj hf
      cases y with
      | obj _ => rfl
      | _ => contradiction
  | array =>
      obtain rfl : Coercion.ofJsonText .array = f := Option.some.inj hf
      cases y with
      | arr _ => rfl
      | _ => contradiction
  | number =>
      obtain rfl : Coercion.toNumber = f := Option.some.inj hf
      cases y with
      | num _ => rfl
      | _ => contradiction
  | integer =>
      obtain rfl : Coercion.toInteger = f := Option.some.inj hf
      cases y with
      | num n =>
          cases n with
          | int _ _ => rfl
          | float _ => contradiction
      | _ => contradiction
  | boolean =>
      obtain rfl : Coercion.toBoolean = f := Option.some.inj hf
      cases y with
      | bool _ => rfl
      | _ => contradiction

theorem coerced_accepted {n : Node} (hdate : n.kind ≠ .date) {x : Json}
    (hx : n.kind.accepts x = true) :
    n.coerced (fun tr => (coercionOf tr.kind).toList) x = x := by
  unfold Node.coerced
  split
  · rfl
  · apply Coercion.applyAll_of_declines
    intro f hf
    exact coercionOf_accepted (by simpa using hf) hdate hx

end Standard
end Conform
