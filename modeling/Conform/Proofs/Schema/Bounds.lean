import Conform.Proofs.Number.Rounding
import Conform.Proofs.Schema.Scalar

/-!
# Validating numbers between bounds

What the schemas of the standard context with a lower and an upper bound make of numbers.  A number
is rounded to a double before it is compared, so that whole numbers of more than 53 bits are
accepted outside the bounds when they are rounded to one of them.
-/

namespace Conform

open Standard

namespace Schema

/-- The schema of a kind with both bounds and no other setting. -/
def between (k : Kind) (a b : Double) : Schema :=
  .mk { kind := k, extra := [("min", .ofDouble a), ("max", .ofDouble b)] } Standard.table .none
    .none

variable {k : Kind} {a b : Double}

/-- The schema is the one that the standard context makes of the kind and the bounds. -/
theorem edits_between (k : Kind) (a b : Double) :
    (Context.standard.ofKind k).2.edits [.min (some a), .max (some b)] = .ok (between k a b) := rfl

theorem closureFree_between (k : Kind) (a b : Double) :
    (between k a b).ClosureFree Standard.table := by
  simp [between, closureFree_iff, built_iff, Options.isConditional]

/-- The issue of a number below the lower bound. -/
def belowIssue (a b : Double) (n : Number) : Issue :=
  .ofViolation [] (boundViolation ("must be at least " ++ boundText a none) (some a) (some b)
    (.num n))

/-- The issue of a number above the upper bound. -/
def aboveIssue (a b : Double) (n : Number) : Issue :=
  .ofViolation [] (boundViolation ("must be at most " ++ boundText b none) (some a) (some b)
    (.num n))

theorem least_ne_most (s t : String) : "must be at least " ++ s ≠ "must be at most " ++ t := by
  intro heq
  have hletter := congrArg (fun words => words.toList[11]?) heq
  simp at hletter

theorem belowIssue_ne_aboveIssue (a b : Double) (n : Number) :
    belowIssue a b n ≠ aboveIssue a b n := fun heq =>
  least_ne_most _ _ (congrArg Issue.message heq)

/-- A measure is compared with the lower bound first. -/
theorem checkBounds_between (x : Json) (m : Double) (unit : Option String) :
    checkBounds (between k a b).node.toTraits x { amount := m, unit } =
      if m.less a then
        some (boundViolation ("must be at least " ++ boundText a unit) (some a) (some b) x)
      else if b.less m then
        some (boundViolation ("must be at most " ++ boundText b unit) (some a) (some b) x)
      else none := by
  have hleast : bound? (between k a b).node.toTraits "min" = some a := rfl
  have hmost : bound? (between k a b).node.toTraits "max" = some b := rfl
  rw [checkBounds, hleast, hmost]
  cases hbelow : m.less a with
  | true => simp [Option.filter, hbelow]
  | false => cases habove : b.less m <;> simp [Option.filter, hbelow, habove]

theorem valueViolation_between (hk : k = .number ∨ k = .integer) {v : Visit} {n : Number}
    (hv : v.current = .num n) :
    (between k a b).node.valueViolation (between k a b).treatment (between k a b).options v =
      checkBounds (between k a b).node.toTraits (.num n) { amount := n.toDouble } := by
  have hchecks : (between k a b).treatment.validate =
      [checkRange (between k a b).node.toTraits] := by
    rw [Standard.treatment_eq rfl]
    rcases hk with rfl | rfl <;> rfl
  have hnone : (between k a b).node.checks = [] := rfl
  change (between k a b).node.firstViolation (between k a b).treatment v = _
  rw [Node.firstViolation, hchecks, hnone, List.map_nil, List.append_nil, List.findSome?_singleton,
    checkRange, hv]
  rfl

section

variable {n : Number} (hk : k = .number ∨ k = .integer) (hn : k.accepts (.num n) = true)
include hk hn

/-- A number stays as it is, and at most one bound is found to be violated. -/
theorem validate_between_eq :
    ((between k a b).validate (some (.num n))).value = some (.num n) ∧
      ((between k a b).validate (some (.num n))).issues =
        if n.toDouble.less a then [belowIssue a b n]
        else if b.less n.toDouble then [aboveIssue a b n] else [] := by
  have scalar : (between k a b).kind.isComposite = false := by rcases hk with rfl | rfl <;> rfl
  have hdate : (between k a b).node.kind ≠ .date := by rcases hk with rfl | rfl <;> nofun
  have haccepts : (between k a b).kind.accepts (.num n) = true := hn
  have hnull : Json.num n ≠ .null := nofun
  rw [validate_scalar (closureFree_between k a b) scalar hnull (coerced_accepted hdate haccepts),
    if_pos haccepts, valueViolation_between hk rfl, checkBounds_between]
  cases n.toDouble.less a with
  | true => exact ⟨rfl, rfl⟩
  | false =>
      cases b.less n.toDouble with
      | true => exact ⟨rfl, rfl⟩
      | false => exact ⟨rfl, rfl⟩

end

/-- A schema for whole numbers between two bounds finds at most one issue.  It is about the lower
bound when the number is below it and not rounded to it, and otherwise about the upper bound when
the number is above it and not rounded to it.  Whole numbers up to `2 ^ 53`, and all others that
some double denotes, are compared exactly. -/
theorem validate_between {n : Int}
    (bounds : -9223372036854775808 ≤ n ∧ n < 18446744073709551616) (a b : Double) :
    ∃ s, (Context.standard.ofKind .integer).2.edits [.min (some a), .max (some b)] = .ok s ∧
      let number := Number.int n bounds
      let result := s.validate (some (.num number))
      let below := n < a.value ∧ ¬a.IsNearest n
      let above := b.value < n ∧ ¬b.IsNearest n
      result.value = some (.num number) ∧
        (result.conforms = true ↔ ¬below ∧ ¬above) ∧
        (result.conforms = false →
          result.issues = [belowIssue a b number] ∨ result.issues = [aboveIssue a b number]) ∧
        (result.issues = [belowIssue a b number] ↔ below) ∧
        (result.issues = [aboveIssue a b number] ↔ ¬below ∧ above) ∧
        ((n.natAbs ≤ 2 ^ 53 ∨ ∃ y : Double, y.value = n) →
          (below ↔ n < a.value) ∧ (above ↔ b.value < n)) := by
  refine ⟨between .integer a b, edits_between .integer a b, ?_⟩
  intro number result below above
  have hsmall : n.natAbs < 2 ^ 64 := by omega
  have hbelow : number.toDouble.less a = true ↔ below := Double.ofInt_less_iff hsmall
  have habove : b.less number.toDouble = true ↔ above := Double.less_ofInt_iff hsmall
  obtain ⟨hvalue, hissues⟩ : result.value = some (.num number) ∧ result.issues = _ :=
    validate_between_eq (Or.inr rfl) rfl
  have hne : belowIssue a b number ≠ aboveIssue a b number := belowIssue_ne_aboveIssue a b number
  have hexact (h : n.natAbs ≤ 2 ^ 53 ∨ ∃ y : Double, y.value = n) :
      (below ↔ n < a.value) ∧ (above ↔ b.value < n) := by
    obtain ⟨y, hy⟩ : ∃ y : Double, y.value = n := h.elim Double.exists_value_eq_intCast id
    refine ⟨and_iff_left_of_imp ?_, and_iff_left_of_imp ?_⟩
    · intro hlt hnearest
      exact hlt.ne' (hnearest.value_eq hy)
    · intro hlt hnearest
      exact hlt.ne (hnearest.value_eq hy)
  have hconforms : result.conforms = result.issues.isEmpty := rfl
  suffices h : (result.conforms = true ↔ ¬below ∧ ¬above) ∧
      (result.conforms = false →
        result.issues = [belowIssue a b number] ∨ result.issues = [aboveIssue a b number]) ∧
      (result.issues = [belowIssue a b number] ↔ below) ∧
      (result.issues = [aboveIssue a b number] ↔ ¬below ∧ above) from
    ⟨hvalue, h.1, h.2.1, h.2.2.1, h.2.2.2, hexact⟩
  by_cases hb : below
  · rw [if_pos (hbelow.mpr hb)] at hissues
    simp [hconforms, hissues, hb, hne]
  · rw [if_neg (mt hbelow.mp hb)] at hissues
    by_cases ha : above
    · rw [if_pos (habove.mpr ha)] at hissues
      simp [hconforms, hissues, hb, ha, hne.symm]
    · rw [if_neg (mt habove.mp ha)] at hissues
      simp [hconforms, hissues, hb, ha]

theorem validate_between_above :
    ∃ s, (Context.standard.ofKind .integer).2.edits
        [.min (some (Double.ofInt 3)), .max (some (Double.ofInt 10))] = .ok s ∧
      (s.validate (some (.num (.int 11 (by decide))))).conforms = false ∧
      (s.validate (some (.num (.int 11 (by decide))))).issues =
        [aboveIssue (Double.ofInt 3) (Double.ofInt 10) (.int 11 (by decide))] := by
  obtain ⟨s, hmade, -, hconforms, -, -, habove, hexact⟩ :=
    validate_between (n := 11) (by decide) (Double.ofInt 3) (Double.ofInt 10)
  obtain ⟨hbelow', habove'⟩ := hexact (Or.inl (by decide))
  have hthree : (Double.ofInt 3).value = (3 : Int) := Double.value_ofInt (by decide)
  have hten : (Double.ofInt 10).value = (10 : Int) := Double.value_ofInt (by decide)
  have hinside := mt hbelow'.mp (by rw [hthree]; norm_num)
  have houtside := habove'.mpr (by rw [hten]; norm_num)
  exact ⟨s, hmade, Bool.eq_false_of_not_eq_true fun h => (hconforms.mp h).2 houtside,
    habove.mpr ⟨hinside, houtside⟩⟩

/-- The whole number after `2 ^ 53` is accepted below that bound, to which it is rounded. -/
theorem validate_between_rounded :
    let bound : Double := Double.ofInt 9007199254740992
    ∃ s, (Context.standard.ofKind .integer).2.edits
        [.min (some (Double.ofInt 0)), .max (some bound)] = .ok s ∧
      bound.value < (9007199254740993 : Int) ∧
      (s.validate (some (.num (.int 9007199254740993 (by decide))))).conforms = true := by
  intro bound
  refine ⟨between .integer (Double.ofInt 0) bound, edits_between _ _ _, ?_, by decide +kernel⟩
  rw [Double.value_ofInt (by decide)]
  norm_num

end Schema

end Conform
