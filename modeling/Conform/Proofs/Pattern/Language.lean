import Conform.Proofs.Pattern.Matching
import Mathlib.Algebra.BigOperators.Group.List.Basic
import Mathlib.Computability.Language

/-!
# The language of a pattern

An expression without anchors matches the same texts at every place: the members of a language.  The
languages of the parts give that of the whole, however the whole was laid out, and a pattern between
the anchors of the start and the end of a text accepts exactly the texts of its language.
-/

namespace Conform

open scoped Computability

namespace Regex

open Conform.Span

/-! ### Expressions that are built from others -/

/-- The parts of a text that some expressions match one after the other. -/
def inTurn : List Regex → Span
  | [] => nothing
  | r :: rs => r.Matches.followedBy (inTurn rs)

theorem inTurn_append (rs ss : List Regex) :
    inTurn (rs ++ ss) = (inTurn rs).followedBy (inTurn ss) := by
  induction rs with
  | nil => exact (nothing_followedBy _).symm
  | cons r rs ih => rw [List.cons_append, inTurn, ih, inTurn, followedBy_assoc]

theorem inTurn_joinPairs (rs : List Regex) : inTurn (joinPairs .seq rs) = inTurn rs := by
  fun_induction joinPairs Regex.seq rs with
  | case1 r s rest ih => rw [inTurn, ih, Matches, inTurn, inTurn, followedBy_assoc]
  | case2 rs => rfl

theorem matches_combine_seq (rs : List Regex) : (combine .seq rs).Matches = inTurn rs := by
  fun_induction combine Regex.seq rs with
  | case1 => rfl
  | case2 r => exact (followedBy_nothing _).symm
  | case3 r s rest ih =>
      rw [ih, inTurn, inTurn_joinPairs, Matches, inTurn, inTurn, followedBy_assoc]

theorem matches_power (r : Regex) (n : Nat) :
    (power r n).Matches = inTurn (List.replicate n r) := by
  fun_induction power r n with
  | case1 => rfl
  | case2 => exact (followedBy_nothing _).symm
  | case3 n _ _ half heven ih =>
      have hsplit : List.replicate n r =
          List.replicate (n / 2) r ++ List.replicate (n / 2) r := by
        rw [← List.replicate_add]
        congr 1
        omega
      rw [Matches, ih, hsplit, inTurn_append]
  | case4 n _ _ half hodd ih =>
      have hsplit : List.replicate n r =
          List.replicate (n / 2) r ++ List.replicate (n / 2) r ++ [r] := by
        rw [← List.replicate_add, ← List.replicate_succ']
        congr 1
        omega
      have hlast : inTurn [r] = r.Matches := followedBy_nothing _
      rw [Matches, Matches, ih, hsplit, inTurn_append, inTurn_append, hlast]

/-! ### No live leaves -/

theorem Fresh.seq {q r : Regex} (hq : q.Fresh) (hr : r.Fresh) : (Regex.seq q r).Fresh := by
  rintro before cs rest (⟨u, v, -, h, -⟩ | h)
  · exact hq before u (v ++ rest) h
  · exact hr before cs rest h

theorem Fresh.alt {q r : Regex} (hq : q.Fresh) (hr : r.Fresh) : (Regex.alt q r).Fresh := by
  rintro before cs rest (h | h)
  · exact hq before cs rest h
  · exact hr before cs rest h

theorem Fresh.star {r : Regex} (hr : r.Fresh) : (Regex.star r).Fresh := by
  rintro before cs rest ⟨u, v, -, h, -⟩
  exact hr before u (v ++ rest) h

theorem fresh_empty : Regex.empty.Fresh := fun _ _ _ h => h

theorem fresh_anchor (a : Anchor) : (Regex.anchor a).Fresh := fun _ _ _ h => h

theorem fresh_leaf (members : CharSet) : (Regex.leaf false members).Fresh :=
  fun _ _ _ h => Bool.false_ne_true h.1

section

variable {f : Regex → Regex → Regex} (hf : ∀ {q r : Regex}, q.Fresh → r.Fresh → (f q r).Fresh)
include hf

theorem fresh_joinPairs {rs : List Regex} (h : ∀ r ∈ rs, r.Fresh) :
    ∀ r ∈ joinPairs f rs, r.Fresh := by
  fun_induction joinPairs f rs with
  | case1 r s rest ih =>
      rw [List.forall_mem_cons, List.forall_mem_cons] at h
      exact List.forall_mem_cons.mpr ⟨hf h.1 h.2.1, ih h.2.2⟩
  | case2 rs => exact h

theorem fresh_combine {rs : List Regex} (h : ∀ r ∈ rs, r.Fresh) : (combine f rs).Fresh := by
  fun_induction combine f rs with
  | case1 => exact fresh_empty
  | case2 r => exact h r List.mem_cons_self
  | case3 r s rest ih =>
      rw [List.forall_mem_cons, List.forall_mem_cons] at h
      exact ih (List.forall_mem_cons.mpr ⟨hf h.1 h.2.1, fresh_joinPairs hf h.2.2⟩)

end

theorem Fresh.power {r : Regex} (h : r.Fresh) (n : Nat) : (power r n).Fresh := by
  fun_induction Regex.power r n with
  | case1 => exact fresh_empty
  | case2 => exact h
  | case3 n _ _ half _ ih => exact ih.seq ih
  | case4 n _ _ half _ ih => exact (ih.seq ih).seq h

theorem Fresh.times {r : Regex} (h : r.Fresh) (least : Nat) (most : Option Nat) :
    (times r least most).Fresh := by
  unfold Regex.times
  split
  · split
    · exact h.power least
    · exact (h.power least).seq ((h.alt fresh_empty).power _)
  · split
    · exact h.star
    · exact (h.power _).seq (h.seq h.star)

mutual

theorem fresh_ofExpr : ∀ e : Expr, (ofExpr e).Fresh
  | .empty => fresh_empty
  | .literal cs => by
      refine fresh_combine Fresh.seq fun r hr => ?_
      obtain ⟨c, -, rfl⟩ := List.mem_map.mp hr
      exact fresh_leaf (.single c)
  | .set _ s => fresh_leaf s
  | .anchor a => fresh_anchor a
  | .times least most _ e => (fresh_ofExpr e).times least most
  | .capture _ e => fresh_ofExpr e
  | .concat es => fresh_combine Fresh.seq (fresh_ofExprs es)
  | .alt es => fresh_combine Fresh.alt (fresh_ofExprs es)

theorem fresh_ofExprs : ∀ es : List Expr, ∀ r ∈ ofExprs es, r.Fresh
  | [] => fun _ hr => (List.not_mem_nil hr).elim
  | e :: es => List.forall_mem_cons.mpr ⟨fresh_ofExpr e, fresh_ofExprs es⟩

end

/-! ### Languages -/

/-- The texts of a single member of a set. -/
def singles (s : CharSet) : Language Char :=
  {cs | ∃ c, s.mem c = true ∧ cs = [c]}

/-- At every place the expression matches the texts of a language. -/
def Denotes (r : Regex) (L : Language Char) : Prop :=
  ∀ before cs rest, r.Matches before cs rest ↔ cs ∈ L

variable {q r : Regex} {K L : Language Char}

theorem denotes_empty : Regex.empty.Denotes 1 := fun _ _ _ => Iff.rfl

theorem denotes_leaf (live : Bool) (s : CharSet) : (Regex.leaf live s).Denotes (singles s) :=
  fun _ _ _ => Iff.rfl

theorem Denotes.alt (hq : q.Denotes K) (hr : r.Denotes L) : (Regex.alt q r).Denotes (K + L) :=
  fun before cs rest => or_congr (hq before cs rest) (hr before cs rest)

theorem Denotes.star (h : r.Denotes L) : (Regex.star r).Denotes L∗ := by
  intro before cs rest
  constructor
  · intro hmatch
    change Repeats r.Matches before cs rest at hmatch
    induction hmatch with
    | nil => exact Language.nil_mem_kstar L
    | @cons before u v rest first _ ih =>
        obtain ⟨parts, hparts, hmem⟩ := Language.mem_kstar.mp ih
        have hu := (h before u (v ++ rest)).mp first
        exact Language.mem_kstar.mpr ⟨u :: parts, by rw [List.flatten_cons, hparts],
          List.forall_mem_cons.mpr ⟨hu, hmem⟩⟩
  · intro hmem
    obtain ⟨parts, rfl, hparts⟩ := Language.mem_kstar.mp hmem
    clear hmem
    change Repeats r.Matches before parts.flatten rest
    induction parts generalizing before with
    | nil => exact .nil
    | cons u parts ih =>
        rw [List.forall_mem_cons] at hparts
        exact .cons ((h before u _).mpr hparts.1) (ih (lastOf before u) hparts.2)

theorem inTurn_iff {rs : List Regex} {Ls : List (Language Char)}
    (h : List.Forall₂ Denotes rs Ls) (before : Option Char) (cs rest : List Char) :
    inTurn rs before cs rest ↔ cs ∈ Ls.prod := by
  induction h generalizing before cs with
  | nil => exact Iff.rfl
  | @cons r L rs Ls hr _ ih =>
      rw [List.prod_cons, Language.mem_mul]
      constructor
      · rintro ⟨u, v, rfl, hu, hv⟩
        exact ⟨u, (hr before u _).mp hu, v, (ih _ v).mp hv, rfl⟩
      · rintro ⟨u, hu, v, hv, rfl⟩
        exact ⟨u, v, rfl, (hr before u _).mpr hu, (ih _ v).mpr hv⟩

theorem denotes_combine_seq {rs : List Regex} {Ls : List (Language Char)}
    (h : List.Forall₂ Denotes rs Ls) : (combine .seq rs).Denotes Ls.prod := by
  intro before cs rest
  rw [matches_combine_seq]
  exact inTurn_iff h before cs rest

theorem Denotes.seq (hq : q.Denotes K) (hr : r.Denotes L) : (Regex.seq q r).Denotes (K * L) := by
  have hpair : combine .seq [q, r] = .seq q r := by simp only [combine, joinPairs]
  have h := denotes_combine_seq (.cons hq (.cons hr .nil))
  rwa [List.prod_cons, List.prod_singleton, hpair] at h

theorem Denotes.power (h : r.Denotes L) (n : Nat) : (power r n).Denotes (L ^ n) := by
  intro before cs rest
  rw [matches_power, ← List.prod_replicate]
  refine inTurn_iff ?_ before cs rest
  induction n with
  | zero => exact .nil
  | succ n ih => exact .cons h ih

/-- Repetitions between two counts are those that there have to be and those that there can be. -/
theorem Denotes.times_between (h : r.Denotes L) (least most : Nat) :
    (times r least (some most)).Denotes (L ^ least * (L + 1) ^ (most - least)) := by
  rw [Regex.times]
  split
  · rename_i heq
    rw [heq, Nat.sub_self, pow_zero, mul_one]
    exact h.power most
  · exact (h.power least).seq ((h.alt denotes_empty).power (most - least))

theorem Denotes.times_from (h : r.Denotes L) (least : Nat) :
    (times r least none).Denotes (L ^ least * L∗) := by
  cases least with
  | zero =>
      rw [pow_zero, one_mul]
      exact h.star
  | succ least =>
      rw [pow_succ, mul_assoc]
      exact (h.power least).seq (h.seq h.star)

/-! ### Texts of the members of a set -/

variable {s : CharSet}

theorem mem_singles_pow {n : Nat} {cs : List Char} :
    cs ∈ singles s ^ n ↔ cs.length = n ∧ ∀ c ∈ cs, s.mem c = true := by
  induction n generalizing cs with
  | zero =>
      rw [pow_zero, Language.mem_one, List.length_eq_zero_iff]
      exact (and_iff_left_of_imp fun h => by simp [h]).symm
  | succ n ih =>
      rw [pow_succ', Language.mem_mul]
      constructor
      · rintro ⟨_, ⟨c, hc, rfl⟩, ds, hds, rfl⟩
        obtain ⟨hlength, hmem⟩ := ih.mp hds
        exact ⟨by simp [hlength], List.forall_mem_cons.mpr ⟨hc, hmem⟩⟩
      · rintro ⟨hlength, hmem⟩
        cases cs with
        | nil => simp at hlength
        | cons c ds =>
            rw [List.forall_mem_cons] at hmem
            exact ⟨[c], ⟨c, hmem.1, rfl⟩, ds, ih.mpr ⟨by simpa using hlength, hmem.2⟩, rfl⟩

theorem mem_singles_add_one_pow {n : Nat} {cs : List Char} :
    cs ∈ (singles s + 1) ^ n ↔ cs.length ≤ n ∧ ∀ c ∈ cs, s.mem c = true := by
  induction n generalizing cs with
  | zero =>
      rw [pow_zero, Language.mem_one, Nat.le_zero, List.length_eq_zero_iff]
      exact (and_iff_left_of_imp fun h => by simp [h]).symm
  | succ n ih =>
      rw [pow_succ', Language.mem_mul]
      constructor
      · rintro ⟨_, ⟨c, hc, rfl⟩ | rfl, ds, hds, rfl⟩
        · obtain ⟨hlength, hmem⟩ := ih.mp hds
          exact ⟨by simpa using hlength, List.forall_mem_cons.mpr ⟨hc, hmem⟩⟩
        · obtain ⟨hlength, hmem⟩ := ih.mp hds
          exact ⟨by simp only [List.nil_append]; omega, hmem⟩
      · rintro ⟨hlength, hmem⟩
        cases cs with
        | nil => exact ⟨[], .inr rfl, [], ih.mpr ⟨Nat.zero_le n, hmem⟩, rfl⟩
        | cons c ds =>
            rw [List.forall_mem_cons] at hmem
            exact ⟨[c], .inl ⟨c, hmem.1, rfl⟩, ds, ih.mpr ⟨by simpa using hlength, hmem.2⟩, rfl⟩

theorem mem_kstar_singles {cs : List Char} :
    cs ∈ (singles s)∗ ↔ ∀ c ∈ cs, s.mem c = true := by
  rw [Language.kstar_eq_iSup_pow, Language.mem_iSup]
  simp [mem_singles_pow]

end Regex

namespace Expr

open Conform.Span

/-- At every place the expression matches the texts of a language. -/
def Denotes (e : Expr) (L : Language Char) : Prop :=
  (Regex.ofExpr e).Denotes L

theorem ofExprs_eq_map (es : List Expr) : Regex.ofExprs es = es.map Regex.ofExpr := by
  induction es with
  | nil => rfl
  | cons e es ih => rw [Regex.ofExprs, ih, List.map_cons]

theorem forall₂_denotes_ofExprs {es : List Expr} {Ls : List (Language Char)}
    (h : List.Forall₂ Denotes es Ls) : List.Forall₂ Regex.Denotes (Regex.ofExprs es) Ls := by
  rw [ofExprs_eq_map]
  exact List.forall₂_map_left_iff.mpr h

theorem denotes_set (isAscii : Bool) (s : CharSet) :
    (Expr.set isAscii s).Denotes (Regex.singles s) :=
  Regex.denotes_leaf false s

theorem denotes_char (c : Char) : (Expr.literal [c]).Denotes (Regex.singles (.single c)) := by
  rw [Denotes, Regex.ofExpr, List.map_singleton, Regex.combine]
  exact Regex.denotes_leaf false (.single c)

theorem denotes_concat {es : List Expr} {Ls : List (Language Char)}
    (h : List.Forall₂ Denotes es Ls) : (Expr.concat es).Denotes Ls.prod :=
  Regex.denotes_combine_seq (forall₂_denotes_ofExprs h)

theorem Denotes.times_between {e : Expr} {L : Language Char} (h : e.Denotes L) (least most : Nat)
    (isLazy : Bool) : (Expr.times least (some most) isLazy e).Denotes
      (L ^ least * (L + 1) ^ (most - least)) :=
  Regex.Denotes.times_between h least most

theorem Denotes.times_from {e : Expr} {L : Language Char} (h : e.Denotes L) (least : Nat)
    (isLazy : Bool) : (Expr.times least none isLazy e).Denotes (L ^ least * L∗) :=
  Regex.Denotes.times_from h least

theorem inTurn_anchor_iff (a : Anchor) {before : Option Char} {cs rest : List Char} :
    Regex.inTurn [.anchor a] before cs rest ↔ cs = [] ∧ a.holds ⟨before, rest.head?⟩ = true := by
  rw [Regex.inTurn, Regex.inTurn, followedBy_nothing]
  rfl

/-- A pattern between the anchors of the start and the end of a text accepts the texts of its
language. -/
theorem isMatch_anchored {es : List Expr} {Ls : List (Language Char)}
    (h : List.Forall₂ Denotes es Ls) (text : List Char) :
    (Regex.ofExpr (.concat (.anchor .textStart :: (es ++ [.anchor .textEnd])))).isMatch text =
        true ↔ text ∈ Ls.prod := by
  have hparts : Regex.ofExprs (.anchor .textStart :: (es ++ [.anchor .textEnd])) =
      [.anchor .textStart] ++ (Regex.ofExprs es ++ [.anchor .textEnd]) := by
    simp only [ofExprs_eq_map, List.map_cons, List.map_append, List.map_nil]
    rfl
  have hturn := Regex.inTurn_iff (forall₂_denotes_ofExprs h)
  rw [Regex.isMatch_iff (Regex.fresh_ofExpr _), Regex.ofExpr, Regex.matches_combine_seq, hparts,
    Regex.inTurn_append, Regex.inTurn_append]
  constructor
  · rintro ⟨u, _, rest, rfl, h⟩
    obtain ⟨_, _, rfl, hfirst, cs, _, rfl, hcs, hlast⟩ := h
    obtain ⟨rfl, hstart⟩ := (inTurn_anchor_iff _).mp hfirst
    obtain ⟨rfl, hend⟩ := (inTurn_anchor_iff _).mp hlast
    obtain ⟨rfl, -⟩ := lastOf_eq_none_iff.mp (Option.isNone_iff_eq_none.mp hstart)
    obtain rfl := List.head?_eq_none_iff.mp (Option.isNone_iff_eq_none.mp hend)
    simpa using (hturn _ cs _).mp hcs
  · intro htext
    have hstart : Regex.inTurn [.anchor .textStart] none [] (text ++ []) :=
      (inTurn_anchor_iff _).mpr ⟨rfl, rfl⟩
    have hend : Regex.inTurn [.anchor .textEnd] (lastOf none text) [] [] :=
      (inTurn_anchor_iff _).mpr ⟨rfl, rfl⟩
    refine ⟨[], text, [], by simp, [], text, rfl, hstart, text, [], by simp, ?_, hend⟩
    exact (hturn none text []).mpr htext

end Expr

end Conform
