import Conform.Proofs.Number.Rounding
import Conform.Proofs.Schema.Membership

/-!
# Comparing numbers with options

Options are compared with a value by what they denote, but a whole number and a double by way of the
nearest double.  The relation is reflexive and symmetric.  It is transitive as well, except from a
whole number to another one by way of a double that both are rounded to.
-/

namespace Conform

namespace Number

variable {a b c : Number}

/-- Numbers of one value, where a whole number also has the value of the double nearest to it. -/
def Matches : Number → Number → Prop
  | .int i _, .float x => x.IsNearest i
  | .float x, .int i _ => x.IsNearest i
  | a, b => a.value = b.value

/-- A number that some double denotes. -/
def IsExact (n : Number) : Prop :=
  ∃ y : Double, y.value = n.value

theorem isExact_of_small (h : a.isFloat = true ∨ |a.value| ≤ 2 ^ 53) : a.IsExact := by
  cases a with
  | float x => exact ⟨x, rfl⟩
  | int i _ =>
      have hle : |(i : ℚ)| ≤ 2 ^ 53 := h.resolve_left (by simp [isFloat])
      rw [Double.abs_intCast] at hle
      exact Double.exists_value_eq_intCast (by exact_mod_cast hle)

theorem sameValue_of_float (h : (a.isFloat || b.isFloat) = true) :
    a.sameValue b = a.toDouble.same b.toDouble := by
  rw [sameValue, if_pos h]

theorem sameValue_iff : a.sameValue b = true ↔ a.Matches b := by
  cases a with
  | int i hi =>
      have hsmall : i.natAbs < 2 ^ 64 := by omega
      cases b with
      | int j _ =>
          rw [sameValue, if_neg (by simp [isFloat]), same_iff]
          exact and_iff_right rfl
      | float y =>
          rw [sameValue_of_float rfl, toDouble, toDouble, Double.ofInt_same_iff hsmall]
          exact Iff.rfl
  | float x =>
      cases b with
      | int j hj =>
          have hsmall : j.natAbs < 2 ^ 64 := by omega
          rw [sameValue_of_float rfl, toDouble, toDouble, Double.same_iff, eq_comm,
            ← Double.same_iff, Double.ofInt_same_iff hsmall]
          exact Iff.rfl
      | float y =>
          rw [sameValue_of_float rfl, toDouble, toDouble, Double.same_iff]
          exact Iff.rfl

theorem matches_of_value_eq (h : a.value = b.value) : a.Matches b := by
  cases a with
  | int i _ =>
      cases b with
      | int j _ => exact h
      | float y => exact (Double.IsNearest.iff_of_value_eq h.symm).mpr h.symm
  | float x =>
      cases b with
      | int j _ => exact (Double.IsNearest.iff_of_value_eq h).mpr h
      | float y => exact h

/-- Numbers of one form, and numbers that doubles denote, match when they have one value. -/
theorem matches_iff_value_eq (h : a.isFloat = b.isFloat ∨ a.IsExact ∧ b.IsExact) :
    a.Matches b ↔ a.value = b.value := by
  refine ⟨fun hmatch => ?_, matches_of_value_eq⟩
  cases a with
  | int i _ =>
      cases b with
      | int j _ => exact hmatch
      | float y =>
          obtain ⟨⟨z, hz⟩, -⟩ := h.resolve_left (by simp [isFloat])
          exact (Double.IsNearest.value_eq hmatch hz).symm
  | float x =>
      cases b with
      | int j _ =>
          obtain ⟨-, ⟨z, hz⟩⟩ := h.resolve_left (by simp [isFloat])
          exact Double.IsNearest.value_eq hmatch hz
      | float y => exact hmatch

theorem Matches.symm (h : a.Matches b) : b.Matches a := by
  cases a with
  | int i _ =>
      cases b with
      | int j _ => exact Eq.symm h
      | float y => exact h
  | float x =>
      cases b with
      | int j _ => exact h
      | float y => exact Eq.symm h

/-- Matching is transitive, unless two whole numbers match a double. -/
theorem Matches.trans (h : a.Matches b) (h' : b.Matches c)
    (hform : b.isFloat = true → a.isFloat = true ∨ c.isFloat = true) : a.Matches c := by
  cases b with
  | int j _ =>
      cases a with
      | int i _ =>
          have hij : (i : ℚ) = j := h
          cases c with
          | int k _ => exact hij.trans h'
          | float z =>
              change z.IsNearest i
              exact hij ▸ h'
      | float x =>
          cases c with
          | int k _ =>
              have hjk : (j : ℚ) = k := h'
              change x.IsNearest k
              exact hjk ▸ h
          | float z => exact Double.IsNearest.unique h h'
  | float y =>
      cases a with
      | int i _ =>
          cases c with
          | int k _ => simp [isFloat] at hform
          | float z => exact Double.IsNearest.congr h (Eq.symm h')
      | float x =>
          cases c with
          | int k _ => exact Double.IsNearest.congr h' h
          | float z => exact Eq.trans h h'

end Number

namespace Json

variable {u v w : Json}

theorem not_number_of_same (h : v.Same w) (hv : ∀ a, v ≠ .num a) : ∀ b, w ≠ .num b := by
  rintro b rfl
  cases sameForm_of_same h
  exact hv _ rfl

/-- Values are the same option when they are numbers that match, or equal values other than
numbers. -/
theorem sameOption_iff :
    v.sameOption w = true ↔
      (∃ a b, v = .num a ∧ w = .num b ∧ a.Matches b) ∨ ((∀ a, v ≠ .num a) ∧ v.Same w) := by
  cases v with
  | num a =>
      cases w with
      | num b => simp [sameOption, Number.sameValue_iff]
      | _ => simp [sameOption, same]
  | _ => simp [sameOption, Same]

theorem sameOption_symm (h : v.sameOption w = true) : w.sameOption v = true := by
  rcases sameOption_iff.mp h with ⟨a, b, rfl, rfl, hmatch⟩ | ⟨hv, hsame⟩
  · exact sameOption_iff.mpr (Or.inl ⟨b, a, rfl, rfl, hmatch.symm⟩)
  · exact sameOption_iff.mpr (Or.inr ⟨not_number_of_same hsame hv, same_symm hsame⟩)

/-- Options are compared transitively, unless two whole numbers are the same option as a double. -/
theorem sameOption_trans (h : u.sameOption v = true) (h' : v.sameOption w = true) :
    u.sameOption w = true ∨ ∃ a b c : Number, u = .num a ∧ v = .num b ∧ w = .num c ∧
      a.isFloat = false ∧ b.isFloat = true ∧ c.isFloat = false := by
  rcases sameOption_iff.mp h with ⟨a, b, rfl, rfl, hmatch⟩ | ⟨hu, hsame⟩
  · rcases sameOption_iff.mp h' with ⟨b', c, hb, rfl, hmatch'⟩ | ⟨hv, -⟩
    · obtain rfl : b = b' := Json.num.inj hb
      by_cases hform : b.isFloat = true → a.isFloat = true ∨ c.isFloat = true
      · exact Or.inl (sameOption_iff.mpr (Or.inl ⟨a, c, rfl, rfl, hmatch.trans hmatch' hform⟩))
      · simp only [Classical.not_imp, not_or, Bool.not_eq_true] at hform
        exact Or.inr ⟨a, b, c, rfl, rfl, rfl, hform.2.1, hform.1, hform.2.2⟩
    · exact (hv b rfl).elim
  · have hv := not_number_of_same hsame hu
    rcases sameOption_iff.mp h' with ⟨b, -, rfl, -⟩ | ⟨-, hsame'⟩
    · exact (hv b rfl).elim
    · exact Or.inl (sameOption_iff.mpr (Or.inr ⟨hu, same_trans hsame hsame'⟩))

end Json

namespace Schema

/-- A number that has the type of a kind conforms to the schema that lists numbers when it matches
one of them. -/
theorem conforms_listed_number_iff {k : Kind} {ns : List Number} {n : Number}
    (hn : k.accepts (.num n) = true) :
    ((listed k (ns.map .num)).validate (some (.num n))).conforms = true ↔
      ∃ o ∈ ns, o.Matches n := by
  have hsettled : Coercion.applyAll (Standard.coercionOf k).toList (.num n) = .num n := by
    apply Coercion.applyAll_of_declines
    intro f hf
    refine Standard.coercionOf_accepted (by simpa using hf) ?_ hn
    rintro rfl
    contradiction
  rw [conforms_listed_iff hsettled nofun]
  simp [hn, Json.sameOption, Number.sameValue_iff]

/-- Numbers are the same option when they match.  They do when they have one value, and only then
where they have one form or are both denoted by doubles, as all doubles are and all whole numbers up
to `2 ^ 53`.  The comparison of options is reflexive and symmetric, and transitive but for two whole
numbers by way of a double.  A number conforms to the schema that lists numbers when it matches one
of them. -/
theorem options_match (a b : Number) (u v w : Json) (k : Kind) (ns : List Number) :
    ((Json.num a).sameOption (.num b) = true ↔ a.Matches b) ∧
      (a.value = b.value → a.Matches b) ∧
      (a.isFloat = b.isFloat ∨ a.IsExact ∧ b.IsExact → (a.Matches b ↔ a.value = b.value)) ∧
      (a.isFloat = true ∨ |a.value| ≤ 2 ^ 53 → a.IsExact) ∧
      u.sameOption u = true ∧
      (u.sameOption v = true → v.sameOption u = true) ∧
      (u.sameOption v = true → v.sameOption w = true →
        u.sameOption w = true ∨ ∃ l m n : Number, u = .num l ∧ v = .num m ∧ w = .num n ∧
          l.isFloat = false ∧ m.isFloat = true ∧ n.isFloat = false) ∧
      (k.accepts (.num a) = true →
        ∃ s, (Context.standard.ofKind k).2.edit (.enumValues (ns.map .num)) = .ok s ∧
          ((s.validate (some (.num a))).conforms = true ↔ ∃ o ∈ ns, o.Matches a)) := by
  refine ⟨Number.sameValue_iff, Number.matches_of_value_eq, Number.matches_iff_value_eq,
    Number.isExact_of_small, Json.sameOption_refl u, Json.sameOption_symm, Json.sameOption_trans,
    ?_⟩
  intro ha
  exact ⟨listed k (ns.map .num), edit_enumValues k _, conforms_listed_number_iff ha⟩

/-- A listed double is met by the whole number of its value. -/
theorem options_match_three :
    ∃ s, (Context.standard.ofKind .number).2.edit
        (.enumValues [.num (.float (Double.ofInt 3))]) = .ok s ∧
      (s.validate (some (.num (.int 3 (by decide))))).conforms = true := by
  let three : Number := .int 3 (by decide)
  let double : Number := .float (Double.ofInt 3)
  have hvalue : double.value = three.value := Double.value_ofInt (by decide)
  obtain ⟨-, hmatch, -⟩ := options_match double three .null .null .null .number [double]
  obtain ⟨-, -, -, -, -, -, -, hlisted⟩ :=
    options_match three double .null .null .null .number [double]
  obtain ⟨s, hmade, hconforms⟩ := hlisted rfl
  exact ⟨s, hmade, hconforms.mpr ⟨double, List.mem_singleton_self double, hmatch hvalue⟩⟩

/-- The whole number after `2 ^ 53` is the same option as the double before it, which is the same
option as the whole number of its value.  The two whole numbers are different options. -/
theorem options_match_rounded :
    let next : Number := .int 9007199254740993 (by decide)
    let power : Number := .int 9007199254740992 (by decide)
    let double : Number := .float (Double.ofInt 9007199254740992)
    next.value ≠ double.value ∧
      (Json.num next).sameOption (.num double) = true ∧
      (Json.num double).sameOption (.num power) = true ∧
      (Json.num next).sameOption (.num power) = false ∧
      ∃ s, (Context.standard.ofKind .number).2.edit (.enumValues [.num double]) = .ok s ∧
        (s.validate (some (.num next))).conforms = true := by
  intro next power double
  have hvalue : double.value = (9007199254740992 : Int) := Double.value_ofInt (by decide)
  refine ⟨?_, by decide +kernel, by decide +kernel, by decide +kernel,
    listed .number [.num double], edit_enumValues _ _, by decide +kernel⟩
  rw [hvalue]
  change ((9007199254740993 : Int) : ℚ) ≠ _
  norm_num

end Schema

end Conform
