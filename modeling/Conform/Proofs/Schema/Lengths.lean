import Conform.Proofs.Schema.Bounds

/-!
# Validating lengths

What the schemas of the standard context with bounds on a length make of strings and arrays.  The
bounds are kept as doubles and the length is compared as one.  Lengths of less than 53 bits are
doubles, and a bound is never rounded past one of them, so that they are compared exactly.
-/

namespace Conform

open Standard

namespace Schema

/-- What a length counts and in which unit: the characters of a string and the items of an array. -/
inductive Counts : Kind → Json → Nat → String → Prop where
  | string (s : String) : Counts .string (.str s) s.length "character"
  | array (items : List Json) : Counts .array (.arr items) items.length "item"

/-- The issue of a length below the lower bound. -/
def shortIssue (a b : Double) (unit : String) (x : Json) : Issue :=
  .ofViolation [] (boundViolation ("must be at least " ++ boundText a (some unit)) (some a) (some b)
    x)

/-- The issue of a length above the upper bound. -/
def longIssue (a b : Double) (unit : String) (x : Json) : Issue :=
  .ofViolation [] (boundViolation ("must be at most " ++ boundText b (some unit)) (some a) (some b)
    x)

theorem shortIssue_ne_longIssue (a b : Double) (unit : String) (x : Json) :
    shortIssue a b unit x ≠ longIssue a b unit x := fun heq =>
  least_ne_most _ _ (congrArg Issue.message heq)

/-- The calls that bound a length make a schema with both bounds as doubles. -/
theorem edits_length (k : Kind) (a b : Nat) :
    (Context.standard.ofKind k).2.edits (Edit.length a b) =
      .ok (between k (.ofInt a) (.ofInt b)) := rfl

variable {k : Kind} {x : Json} {n : Nat} {unit : String} {a b : Double}

/-- The value of a node for strings or arrays is checked by comparing its length with the bounds. -/
theorem Counts.valueViolation_between (hx : Counts k x n unit) {v : Visit} (hv : v.current = x) :
    (between k a b).node.valueViolation (between k a b).treatment (between k a b).options v =
      checkBounds (between k a b).node.toTraits x { amount := .ofInt n, unit := some unit } := by
  have hchecks : (between k a b).treatment.validate =
      [checkLength (between k a b).node.toTraits] := by
    rw [Standard.treatment_eq rfl]
    cases hx <;> rfl
  have hnone : (between k a b).node.checks = [] := rfl
  change (between k a b).node.firstViolation (between k a b).treatment v = _
  rw [Node.firstViolation, hchecks, hnone, List.map_nil, List.append_nil, List.findSome?_singleton,
    checkLength, hv]
  cases hx <;> rfl

/-- A string or an array stays as it is, and at most one bound of its length is found to be
violated. -/
theorem Counts.validate_between_eq (hx : Counts k x n unit) :
    ((between k a b).validate (some x)).value = some x ∧
      ((between k a b).validate (some x)).issues =
        if (Double.ofInt n).less a then [shortIssue a b unit x]
        else if b.less (.ofInt n) then [longIssue a b unit x] else [] := by
  have hobject : (between k a b).kind ≠ .object := by cases hx <;> nofun
  have hdate : (between k a b).node.kind ≠ .date := by cases hx <;> nofun
  have haccepts : (between k a b).kind.accepts x = true := by cases hx <;> rfl
  have hnull : x ≠ .null := by cases hx <;> nofun
  rw [validate_childless (closureFree_between k a b) hobject (fun _ => rfl) hnull
    (coerced_accepted hdate haccepts), if_pos haccepts, hx.valueViolation_between rfl,
    checkBounds_between]
  generalize Double.ofInt n = length
  cases length.less a with
  | true => exact ⟨rfl, rfl⟩
  | false =>
      cases b.less length with
      | true => exact ⟨rfl, rfl⟩
      | false => exact ⟨rfl, rfl⟩

/-- A schema for strings or arrays of bounded length accepts a length of less than 53 bits exactly
when it lies within the bounds, whatever 64 bits these have.  Otherwise it finds one issue, which is
about the lower bound exactly when the length is below it. -/
theorem validate_length (hx : Counts k x n unit) (hn : n < 2 ^ 53) {a b : Nat} (ha : a < 2 ^ 64)
    (hb : b < 2 ^ 64) :
    ∃ s, (Context.standard.ofKind k).2.edits (Edit.length a b) = .ok s ∧
      let result := s.validate (some x)
      let short := shortIssue (.ofInt a) (.ofInt b) unit x
      let long := longIssue (.ofInt a) (.ofInt b) unit x
      result.value = some x ∧
        (result.conforms = true ↔ a ≤ n ∧ n ≤ b) ∧
        (result.conforms = false → result.issues = [short] ∨ result.issues = [long]) ∧
        (result.issues = [short] ↔ n < a) ∧
        (result.issues = [long] ↔ ¬n < a ∧ b < n) := by
  refine ⟨between k (.ofInt a) (.ofInt b), edits_length k a b, ?_⟩
  intro result short long
  have hshort : (Double.ofInt n).less (.ofInt a) = true ↔ n < a := by
    rw [Double.less_iff, Double.value_ofInt_lt_iff (by omega) (by omega) (Or.inl (by omega)),
      Int.ofNat_lt]
  have hlong : (Double.ofInt b).less (.ofInt n) = true ↔ b < n := by
    rw [Double.less_iff, Double.value_ofInt_lt_iff (by omega) (by omega) (Or.inr (by omega)),
      Int.ofNat_lt]
  obtain ⟨hvalue, hissues⟩ : result.value = some x ∧
      result.issues = if (Double.ofInt n).less (.ofInt a) then [short]
        else if (Double.ofInt b).less (.ofInt n) then [long] else [] := hx.validate_between_eq
  have hne : short ≠ long := shortIssue_ne_longIssue _ _ unit x
  have hconforms : result.conforms = result.issues.isEmpty := rfl
  refine ⟨hvalue, ?_⟩
  by_cases hbelow : n < a
  · rw [if_pos (hshort.mpr hbelow)] at hissues
    simp [hconforms, hissues, hbelow, hne]
  · rw [if_neg (mt hshort.mp hbelow)] at hissues
    by_cases habove : b < n
    · rw [if_pos (hlong.mpr habove)] at hissues
      simp [hconforms, hissues, hbelow, habove, hne.symm]
    · rw [if_neg (mt hlong.mp habove)] at hissues
      simp [hconforms, hissues, hbelow, habove, not_lt.mp hbelow, not_lt.mp habove]

/-- A word of three characters is too short for a length of four, although it takes five bytes. -/
theorem validate_length_word :
    ∃ s, (Context.standard.ofKind .string).2.edits (Edit.length 4 9007199254740993) = .ok s ∧
      (s.validate (some (.str "été"))).issues =
        [shortIssue (.ofInt 4) (.ofInt 9007199254740993) "character" (.str "été")] := by
  obtain ⟨s, hmade, -, -, -, hshort, -⟩ := validate_length (.string "été") (by decide)
    (a := 4) (b := 9007199254740993) (by decide) (by decide)
  exact ⟨s, hmade, hshort.mpr (by decide)⟩

end Schema

end Conform
