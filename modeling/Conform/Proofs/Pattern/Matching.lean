import Conform.Pattern.Basic
import Mathlib.Data.List.Basic

/-!
# What a matcher looks for

An expression matches a part of a text, between the character before the part and what follows it.
The matcher reads the text once and keeps its place in the expression by marks.  Here the marks get
their meaning, the parts that would complete a match, and each character read is seen to keep it; so
the matcher finds a match exactly when some part of the text is matched.
-/

namespace Conform

/-- A property of a part of a text: the character before it, its characters and the rest of the
text after it. -/
abbrev Span := Option Char → List Char → List Char → Prop

namespace Span

/-- The last character of some characters, or the one before them. -/
def lastOf (before : Option Char) : List Char → Option Char
  | [] => before
  | c :: cs => lastOf (some c) cs

theorem lastOf_append (before : Option Char) (cs ds : List Char) :
    lastOf before (cs ++ ds) = lastOf (lastOf before cs) ds := by
  induction cs generalizing before with
  | nil => rfl
  | cons c cs ih => exact ih (some c)

theorem lastOf_eq_none_iff {before : Option Char} {cs : List Char} :
    lastOf before cs = none ↔ cs = [] ∧ before = none := by
  induction cs generalizing before with
  | nil => simp [lastOf]
  | cons c cs ih => simp [lastOf, ih]

/-- An empty part. -/
def nothing : Span := fun _ cs _ => cs = []

/-- A part of one property followed by one of another. -/
def followedBy (P Q : Span) : Span := fun before cs rest =>
  ∃ u v, cs = u ++ v ∧ P before u (v ++ rest) ∧ Q (lastOf before u) v rest

/-- Any number of parts of one property. -/
inductive Repeats (P : Span) : Span where
  | nil {before : Option Char} {rest : List Char} : Repeats P before [] rest
  | cons {before : Option Char} {u v rest : List Char} (first : P before u (v ++ rest))
      (more : Repeats P (lastOf before u) v rest) : Repeats P before (u ++ v) rest

variable {P Q R : Span} {before : Option Char} {c : Char} {cs rest : List Char}

theorem followedBy_nil_iff :
    P.followedBy Q before [] rest ↔ P before [] rest ∧ Q before [] rest := by
  constructor
  · rintro ⟨u, v, huv, hP, hQ⟩
    obtain ⟨rfl, rfl⟩ := List.append_eq_nil_iff.mp huv.symm
    exact ⟨hP, hQ⟩
  · rintro ⟨hP, hQ⟩
    exact ⟨[], [], rfl, hP, hQ⟩

/-- The first of two parts is empty or takes the first character. -/
theorem followedBy_cons_iff :
    P.followedBy Q before (c :: cs) rest ↔
      (P before [] (c :: cs ++ rest) ∧ Q before (c :: cs) rest) ∨
        ∃ u v, cs = u ++ v ∧ P before (c :: u) (v ++ rest) ∧ Q (lastOf (some c) u) v rest := by
  constructor
  · rintro ⟨u, v, huv, hP, hQ⟩
    cases u with
    | nil =>
        obtain rfl : c :: cs = v := huv
        exact .inl ⟨hP, hQ⟩
    | cons d u =>
        obtain ⟨rfl, rfl⟩ := List.cons.inj huv
        exact .inr ⟨u, v, rfl, hP, hQ⟩
  · rintro (⟨hP, hQ⟩ | ⟨u, v, rfl, hP, hQ⟩)
    · exact ⟨[], c :: cs, rfl, hP, hQ⟩
    · exact ⟨c :: u, v, rfl, hP, hQ⟩

theorem followedBy_assoc (P Q R : Span) :
    (P.followedBy Q).followedBy R = P.followedBy (Q.followedBy R) := by
  funext before cs rest
  apply propext
  constructor
  · rintro ⟨_, w, rfl, ⟨u, v, rfl, hP, hQ⟩, hR⟩
    rw [lastOf_append] at hR
    exact ⟨u, v ++ w, List.append_assoc u v w, by rwa [List.append_assoc], v, w, rfl, hQ, hR⟩
  · rintro ⟨u, _, rfl, hP, v, w, rfl, hQ, hR⟩
    rw [List.append_assoc] at hP
    refine ⟨u ++ v, w, (List.append_assoc u v w).symm, ⟨u, v, rfl, hP, hQ⟩, ?_⟩
    rwa [lastOf_append]

theorem nothing_followedBy (P : Span) : nothing.followedBy P = P := by
  funext before cs rest
  apply propext
  constructor
  · rintro ⟨_, v, rfl, rfl, hP⟩
    exact hP
  · intro hP
    exact ⟨[], cs, rfl, rfl, hP⟩

theorem followedBy_nothing (P : Span) : P.followedBy nothing = P := by
  funext before cs rest
  apply propext
  constructor
  · rintro ⟨u, _, rfl, hP, rfl⟩
    rwa [List.append_nil]
  · intro hP
    exact ⟨cs, [], (List.append_nil cs).symm, hP, rfl⟩

/-- Of repeated parts, the first one that is not empty takes the first character. -/
theorem repeats_cons_iff :
    Repeats P before (c :: cs) rest ↔
      ∃ u v, cs = u ++ v ∧ P before (c :: u) (v ++ rest) ∧
        Repeats P (lastOf (some c) u) v rest := by
  constructor
  · intro h
    generalize hds : c :: cs = ds at h
    induction h with
    | nil => simp at hds
    | @cons before u v rest first more ih =>
        cases u with
        | nil => exact ih hds
        | cons d u =>
            obtain ⟨rfl, rfl⟩ := List.cons.inj hds
            exact ⟨u, v, rfl, first, more⟩
  · rintro ⟨u, v, rfl, first, more⟩
    exact .cons first more

end Span

namespace Regex

open Conform.Span

/-- The parts of a text that an expression matches, whatever its marks. -/
def Matches : Regex → Span
  | .empty => nothing
  | .leaf _ members => fun _ cs _ => ∃ c, members.mem c = true ∧ cs = [c]
  | .anchor a => fun before cs rest => cs = [] ∧ a.holds ⟨before, rest.head?⟩ = true
  | .seq q r => q.Matches.followedBy r.Matches
  | .alt q r => fun before cs rest => q.Matches before cs rest ∨ r.Matches before cs rest
  | .star r => Repeats r.Matches

/-- The parts of a text that complete a match which has come to a live leaf. -/
def Continues : Regex → Span
  | .empty => fun _ _ _ => False
  | .leaf live _ => fun _ cs _ => live = true ∧ cs = []
  | .anchor _ => fun _ _ _ => False
  | .seq q r => fun before cs rest =>
    q.Continues.followedBy r.Matches before cs rest ∨ r.Continues before cs rest
  | .alt q r => fun before cs rest => q.Continues before cs rest ∨ r.Continues before cs rest
  | .star r => r.Continues.followedBy (Repeats r.Matches)

variable {before : Option Char} {c : Char} {cs rest : List Char}

theorem nullable_iff (r : Regex) (before : Option Char) (rest : List Char) :
    r.nullable ⟨before, rest.head?⟩ = true ↔ r.Matches before [] rest := by
  induction r with
  | empty => simp [nullable, Matches, nothing]
  | leaf live members => simp [nullable, Matches]
  | anchor a => simp [nullable, Matches]
  | seq q r ihq ihr => rw [nullable, Bool.and_eq_true, ihq, ihr, Matches, followedBy_nil_iff]
  | alt q r ihq ihr => rw [nullable, Bool.or_eq_true, ihq, ihr, Matches]
  | star r ih => exact iff_of_true rfl .nil

theorem final_iff (r : Regex) (before : Option Char) (rest : List Char) :
    r.final ⟨before, rest.head?⟩ = true ↔ r.Continues before [] rest := by
  induction r with
  | empty => simp [final, Continues]
  | leaf live members => simp [final, Continues]
  | anchor a => simp [final, Continues]
  | seq q r ihq ihr =>
      simp only [final, Continues, Bool.or_eq_true, Bool.and_eq_true, ihq, ihr, nullable_iff,
        followedBy_nil_iff]
      exact or_comm
  | alt q r ihq ihr => rw [final, Bool.or_eq_true, ihq, ihr, Continues]
  | star r ih =>
      rw [final, ih, Continues, followedBy_nil_iff]
      exact (and_iff_left .nil).symm

/-- Reading a character changes marks only. -/
theorem matches_step (s : Surroundings) (c : Char) (entering : Bool) (r : Regex) :
    (r.step s c entering).Matches = r.Matches := by
  induction r generalizing entering with
  | empty => rfl
  | leaf live members => rfl
  | anchor a => rfl
  | seq q r ihq ihr => rw [step, Matches, ihq, ihr, Matches]
  | alt q r ihq ihr => rw [step, Matches, ihq, ihr, Matches]
  | star r ih => rw [step, Matches, ih, Matches]

/-- After a character, what completes a match is what completes with that character in front a match
that stood before it, or a match that may begin there. -/
theorem continues_step_iff (r : Regex) (before : Option Char) (c : Char) (entering : Bool)
    (cs rest : List Char) :
    (r.step ⟨before, some c⟩ c entering).Continues (some c) cs rest ↔
      (entering = true ∧ r.Matches before (c :: cs) rest) ∨ r.Continues before (c :: cs) rest := by
  induction r generalizing entering cs rest with
  | empty => simp [step, Continues, Matches, nothing]
  | leaf live members =>
      simp only [step, Continues, Matches, Bool.and_eq_true, List.cons.injEq, reduceCtorEq,
        and_false, or_false]
      constructor
      · rintro ⟨⟨hentering, hmem⟩, rfl⟩
        exact ⟨hentering, c, hmem, rfl, rfl⟩
      · rintro ⟨hentering, _, hmem, rfl, rfl⟩
        exact ⟨⟨hentering, hmem⟩, rfl⟩
  | anchor a => simp [step, Continues, Matches]
  | seq q r ihq ihr =>
      have hnullable := nullable_iff q before (c :: cs ++ rest)
      have hfinal := final_iff q before (c :: cs ++ rest)
      rw [List.cons_append, List.head?_cons, ← List.cons_append] at hnullable hfinal
      simp only [step, Continues, Matches, matches_step, ihr, Bool.or_eq_true, Bool.and_eq_true,
        hnullable, hfinal, followedBy_cons_iff]
      constructor
      · rintro (⟨u, v, rfl, hq, hr⟩ | ⟨⟨hentering, hq⟩ | hq, hr⟩ | hr)
        · rcases (ihq entering u (v ++ rest)).mp hq with ⟨hentering, hq⟩ | hq
          · exact .inl ⟨hentering, .inr ⟨u, v, rfl, hq, hr⟩⟩
          · exact .inr (.inl (.inr ⟨u, v, rfl, hq, hr⟩))
        · exact .inl ⟨hentering, .inl ⟨hq, hr⟩⟩
        · exact .inr (.inl (.inl ⟨hq, hr⟩))
        · exact .inr (.inr hr)
      · rintro (⟨hentering, ⟨hq, hr⟩ | ⟨u, v, rfl, hq, hr⟩⟩ |
          (⟨hq, hr⟩ | ⟨u, v, rfl, hq, hr⟩) | hr)
        · exact .inr (.inl ⟨.inl ⟨hentering, hq⟩, hr⟩)
        · exact .inl ⟨u, v, rfl, (ihq entering u (v ++ rest)).mpr (.inl ⟨hentering, hq⟩), hr⟩
        · exact .inr (.inl ⟨.inr hq, hr⟩)
        · exact .inl ⟨u, v, rfl, (ihq entering u (v ++ rest)).mpr (.inr hq), hr⟩
        · exact .inr (.inr hr)
  | alt q r ihq ihr =>
      simp only [step, Continues, Matches, ihq, ihr, and_or_left]
      exact or_or_or_comm
  | star r ih =>
      have hfinal := final_iff r before (c :: cs ++ rest)
      rw [List.cons_append, List.head?_cons, ← List.cons_append] at hfinal
      simp only [step, Continues, Matches, matches_step, followedBy_cons_iff, repeats_cons_iff]
      constructor
      · rintro ⟨u, v, rfl, hr, hmore⟩
        rcases (ih _ u (v ++ rest)).mp hr with ⟨hentering, hr⟩ | hr
        · rcases Bool.or_eq_true_iff.mp hentering with hentering | hcomplete
          · exact .inl ⟨hentering, u, v, rfl, hr, hmore⟩
          · exact .inr (.inl ⟨hfinal.mp hcomplete, u, v, rfl, hr, hmore⟩)
        · exact .inr (.inr ⟨u, v, rfl, hr, hmore⟩)
      · rintro (⟨hentering, u, v, rfl, hr, hmore⟩ | ⟨hcomplete, u, v, rfl, hr, hmore⟩ |
          ⟨u, v, rfl, hr, hmore⟩)
        · exact ⟨u, v, rfl, (ih _ u (v ++ rest)).mpr (.inl ⟨by simp [hentering], hr⟩), hmore⟩
        · exact ⟨u, v, rfl,
            (ih _ u (v ++ rest)).mpr (.inl ⟨by simp [hfinal.mpr hcomplete], hr⟩), hmore⟩
        · exact ⟨u, v, rfl, (ih _ u (v ++ rest)).mpr (.inr hr), hmore⟩

theorem acceptsAt_iff (r : Regex) (before : Option Char) (rest : List Char) :
    r.acceptsAt ⟨before, rest.head?⟩ = true ↔
      r.Matches before [] rest ∨ r.Continues before [] rest := by
  rw [acceptsAt, Bool.or_eq_true, nullable_iff, final_iff]

/-- From a place on, the matcher finds a match that begins there or later, or completes one that has
come to a live leaf. -/
theorem matchesFrom_iff (r : Regex) (before : Option Char) (text : List Char) :
    r.matchesFrom before text = true ↔
      (∃ u cs rest, text = u ++ cs ++ rest ∧ r.Matches (lastOf before u) cs rest) ∨
        ∃ cs rest, text = cs ++ rest ∧ r.Continues before cs rest := by
  induction text generalizing r before with
  | nil =>
      rw [matchesFrom]
      refine (acceptsAt_iff r before []).trans (or_congr ?_ ?_)
      · constructor
        · intro h
          exact ⟨[], [], [], rfl, h⟩
        · rintro ⟨u, cs, rest, htext, h⟩
          obtain ⟨hu, rfl⟩ := List.append_eq_nil_iff.mp htext.symm
          obtain ⟨rfl, rfl⟩ := List.append_eq_nil_iff.mp hu
          exact h
      · constructor
        · intro h
          exact ⟨[], [], rfl, h⟩
        · rintro ⟨cs, rest, htext, h⟩
          obtain ⟨rfl, rfl⟩ := List.append_eq_nil_iff.mp htext.symm
          exact h
  | cons c text ih =>
      have hhere := acceptsAt_iff r before (c :: text)
      rw [List.head?_cons] at hhere
      rw [matchesFrom, Bool.or_eq_true, hhere, ih]
      simp only [matches_step, continues_step_iff, true_and]
      constructor
      · rintro ((h | h) | ⟨u, cs, rest, rfl, h⟩ | ⟨cs, rest, rfl, h | h⟩)
        · exact .inl ⟨[], [], c :: text, rfl, h⟩
        · exact .inr ⟨[], c :: text, rfl, h⟩
        · exact .inl ⟨c :: u, cs, rest, rfl, h⟩
        · exact .inl ⟨[], c :: cs, rest, rfl, h⟩
        · exact .inr ⟨c :: cs, rest, rfl, h⟩
      · rintro (⟨u, cs, rest, htext, h⟩ | ⟨cs, rest, htext, h⟩)
        · cases u with
          | cons d u =>
              obtain ⟨rfl, rfl⟩ := List.cons.inj htext
              exact .inr (.inl ⟨u, cs, rest, rfl, h⟩)
          | nil =>
              cases cs with
              | nil =>
                  obtain rfl : c :: text = rest := htext
                  exact .inl (.inl h)
              | cons d cs =>
                  obtain ⟨rfl, rfl⟩ := List.cons.inj htext
                  exact .inr (.inr ⟨cs, rest, rfl, .inl h⟩)
        · cases cs with
          | nil =>
              obtain rfl : c :: text = rest := htext
              exact .inl (.inr h)
          | cons d cs =>
              obtain ⟨rfl, rfl⟩ := List.cons.inj htext
              exact .inr (.inr ⟨cs, rest, rfl, .inr h⟩)

/-- An expression none of whose leaves is live. -/
def Fresh (r : Regex) : Prop :=
  ∀ before cs rest, ¬r.Continues before cs rest

/-- The matcher finds a match exactly when some part of the text is matched. -/
theorem isMatch_iff {r : Regex} (h : r.Fresh) (text : List Char) :
    r.isMatch text = true ↔
      ∃ u cs rest, text = u ++ cs ++ rest ∧ r.Matches (lastOf none u) cs rest := by
  rw [isMatch, matchesFrom_iff]
  refine or_iff_left ?_
  rintro ⟨cs, rest, -, hcontinues⟩
  exact h none cs rest hcontinues

end Regex

end Conform
