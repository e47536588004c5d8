import Conform.Format.Basic
import Conform.Proofs.Pattern.Language
import Conform.Proofs.Text.Blank
import Mathlib

/-!
# The grammar of email addresses

The pattern of an address accepts exactly the texts of a grammar: a local part, an at sign and
labels with single dots between them.
-/

namespace Conform.Email

open Text Pattern

open scoped Computability

/-! ### The grammar -/

/-- An ASCII letter or digit. -/
def IsAlphanumeric (c : Char) : Prop :=
  ('a' ≤ c ∧ c ≤ 'z') ∨ ('A' ≤ c ∧ c ≤ 'Z') ∨ ('0' ≤ c ∧ c ≤ '9')

instance (c : Char) : Decidable (IsAlphanumeric c) :=
  inferInstanceAs (Decidable (_ ∨ _ ∨ _))

/-- The characters that a local part can have beside letters and digits. -/
def punctuation : List Char :=
  ".!#$%&'*+/=?^_`\x7b|\x7d~-".toList

/-- What can stand before the at sign. -/
structure IsLocalPart (cs : List Char) : Prop where
  nonempty : cs ≠ []
  chars : ∀ c ∈ cs, IsAlphanumeric c ∨ c ∈ punctuation

/-- A part of a domain between dots. -/
structure IsLabel (cs : List Char) : Prop where
  length : 1 ≤ cs.length ∧ cs.length ≤ 63
  chars : ∀ c ∈ cs, IsAlphanumeric c ∨ c = '-'
  first : cs.head? ≠ some '-'
  last : cs.getLast? ≠ some '-'

/-- A local part, an at sign and one or more labels with single dots between them. -/
def IsAddress (s : String) : Prop :=
  ∃ localPart labels, IsLocalPart localPart ∧ labels ≠ [] ∧ (∀ l ∈ labels, IsLabel l) ∧
    s.toList = localPart ++ '@' :: ['.'].intercalate labels

/-! ### The sets of characters of the pattern -/

def alphanumerics : CharSet :=
  ⟨[(48, 57), (65, 90), (97, 122)]⟩

def labelChars : CharSet :=
  ⟨[(45, 45), (48, 57), (65, 90), (97, 122)]⟩

def localChars : CharSet :=
  ⟨[(33, 33), (35, 39), (42, 43), (45, 57), (61, 61), (63, 63), (65, 90), (94, 126)]⟩

theorem mem_ranges_iff {range : CodeRange} {ranges : List CodeRange} {c : Char} :
    (CharSet.mk (range :: ranges)).mem c = true ↔
      range.1 ≤ c.toNat ∧ (c.toNat ≤ range.2 ∨ (CharSet.mk ranges).mem c = true) := by
  simp only [CharSet.mem, CharSet.has, CharSet.holds, Bool.and_eq_true, Bool.or_eq_true,
    decide_eq_true_eq]

theorem mem_no_ranges (c : Char) : (CharSet.mk []).mem c = false := rfl

theorem isAlphanumeric_iff {c : Char} :
    IsAlphanumeric c ↔ (97 ≤ c.toNat ∧ c.toNat ≤ 122) ∨ (65 ≤ c.toNat ∧ c.toNat ≤ 90) ∨
      (48 ≤ c.toNat ∧ c.toNat ≤ 57) := by
  simp only [IsAlphanumeric, le_iff_toNat_le]
  rfl

theorem mem_alphanumerics {c : Char} : alphanumerics.mem c = true ↔ IsAlphanumeric c := by
  rw [isAlphanumeric_iff]
  simp only [alphanumerics, mem_ranges_iff, mem_no_ranges, Bool.false_eq_true, or_false]
  omega

theorem mem_labelChars {c : Char} : labelChars.mem c = true ↔ IsAlphanumeric c ∨ c = '-' := by
  have hhyphen : c = '-' ↔ c.toNat = 45 := Char.toNat_inj.symm
  rw [isAlphanumeric_iff, hhyphen]
  simp only [labelChars, mem_ranges_iff, mem_no_ranges, Bool.false_eq_true, or_false]
  omega

theorem mem_localChars {c : Char} :
    localChars.mem c = true ↔ IsAlphanumeric c ∨ c ∈ punctuation := by
  have hpunctuation : c ∈ punctuation ↔ c.toNat ∈ punctuation.map Char.toNat :=
    (List.mem_map_of_injective fun _ _ => Char.toNat_inj.mp).symm
  have hcodes : punctuation.map Char.toNat =
      [46, 33, 35, 36, 37, 38, 39, 42, 43, 47, 61, 63, 94, 95, 96, 123, 124, 125, 126, 45] := by
    decide
  rw [isAlphanumeric_iff, hpunctuation, hcodes]
  simp only [localChars, mem_ranges_iff, mem_no_ranges, Bool.false_eq_true, or_false, List.mem_cons,
    List.not_mem_nil]
  omega

/-! ### The pattern as it is read -/

/-- A class in brackets. -/
def classOf (items : List ClassTree) : Tree :=
  .bracketed false (.union items)

def classChar (c : Char) : ClassTree :=
  .literal { char := c }

def classRange (first last : Char) : ClassTree :=
  .range { char := first } { char := last }

/-- The ranges of letters and digits in a class. -/
def alphanumericItems : List ClassTree :=
  [classRange 'a' 'z', classRange 'A' 'Z', classRange '0' '9']

/-- What can follow the first character of a label. -/
def labelTailTree : Tree :=
  .times 0 (some 1) false (.group (.scope [])
    (.concat [.times 0 (some 61) false (classOf (alphanumericItems ++ [classChar '-'])),
      classOf alphanumericItems]))

/-- The pattern as written. -/
def tree : Tree :=
  .concat [.sign .lineStart,
    .times 1 none false (classOf (alphanumericItems ++ punctuation.map classChar)),
    .literal { char := '@' }, classOf alphanumericItems, labelTailTree,
    .times 0 none false (.group (.scope [])
      (.concat [.literal { char := '.' }, classOf alphanumericItems, labelTailTree])),
    .sign .lineEnd]

def labelTail : Expr :=
  .times 0 (some 1) false
    (.concat [.times 0 (some 61) false (.set false labelChars), .set false alphanumerics])

/-- The parts of the pattern between its anchors. -/
def parts : List Expr :=
  [.times 1 none false (.set false localChars), .literal ['@'], .set false alphanumerics, labelTail,
    .times 0 none false (.concat [.literal ['.'], .set false alphanumerics, labelTail])]

def expr : Expr :=
  .concat (.anchor .textStart :: (parts ++ [.anchor .textEnd]))

theorem readTree_source : readTree source = .ok tree := by cbv

theorem toExpr_tree : tree.toExpr {} = .ok (expr, {}) := by cbv

theorem check_expr : Automaton.check expr = .ok () := by decide +kernel

theorem pattern_eq : pattern = .ok ⟨source, .ofExpr expr⟩ := by
  simp only [pattern, Pattern.ofText, readTree_source, toExpr_tree, check_expr, bind, Except.bind]
  rfl

/-! ### The language of the pattern -/

open Conform.Expr Conform.Regex

/-- What can follow the first character of a label, unless nothing does. -/
def labelEnd : Language Char :=
  (singles labelChars + 1) ^ 61 * singles alphanumerics

/-- A dot and a label. -/
def dottedLabel : Language Char :=
  singles (.single '.') * (singles alphanumerics * (labelEnd + 1))

theorem denotes_labelTail : labelTail.Denotes (labelEnd + 1) := by
  have hmiddle := (denotes_set false labelChars).times_between 0 61 false
  have hend := denotes_concat (.cons hmiddle (.cons (denotes_set false alphanumerics) .nil))
  have htail := hend.times_between 0 1 false
  rw [pow_zero, one_mul, pow_zero, one_mul, pow_one, List.prod_cons, List.prod_singleton] at htail
  exact htail

theorem denotes_dottedLabel :
    (Expr.concat [.literal ['.'], .set false alphanumerics, labelTail]).Denotes dottedLabel := by
  have h := denotes_concat (.cons (denotes_char '.')
    (.cons (denotes_set false alphanumerics) (.cons denotes_labelTail .nil)))
  rwa [List.prod_cons, List.prod_cons, List.prod_singleton] at h

theorem forall₂_denotes_parts : List.Forall₂ Expr.Denotes parts
    [singles localChars ^ 1 * (singles localChars)∗, singles (.single '@'), singles alphanumerics,
      labelEnd + 1, dottedLabel ^ 0 * dottedLabel∗] :=
  .cons ((denotes_set false localChars).times_from 1 false) (.cons (denotes_char '@')
    (.cons (denotes_set false alphanumerics) (.cons denotes_labelTail
      (.cons (denotes_dottedLabel.times_from 0 false) .nil))))

theorem mem_single {c : Char} {cs : List Char} : cs ∈ singles (.single c) ↔ cs = [c] := by
  have hmem : ∀ d, (CharSet.single c).mem d = true ↔ d = c := by
    intro d
    rw [← Char.toNat_inj, CharSet.single, mem_ranges_iff, mem_no_ranges]
    simp only [Bool.false_eq_true, or_false]
    omega
  constructor
  · rintro ⟨d, hd, rfl⟩
    rw [(hmem d).mp hd]
  · rintro rfl
    exact ⟨c, (hmem c).mpr rfl, rfl⟩

theorem mem_localPart_iff {cs : List Char} :
    cs ∈ singles localChars ^ 1 * (singles localChars)∗ ↔ IsLocalPart cs := by
  rw [pow_one, Language.mem_mul]
  constructor
  · rintro ⟨_, ⟨c, hc, rfl⟩, ds, hds, rfl⟩
    refine ⟨nofun, List.forall_mem_cons.mpr ⟨mem_localChars.mp hc, ?_⟩⟩
    exact fun d hd => mem_localChars.mp (mem_kstar_singles.mp hds d hd)
  · intro h
    cases cs with
    | nil => exact (h.nonempty rfl).elim
    | cons c ds =>
        have hchars := List.forall_mem_cons.mp h.chars
        exact ⟨[c], ⟨c, mem_localChars.mpr hchars.1, rfl⟩, ds,
          mem_kstar_singles.mpr fun d hd => mem_localChars.mpr (hchars.2 d hd), rfl⟩

theorem ne_hyphen_of_isAlphanumeric {c : Char} (h : IsAlphanumeric c) : c ≠ '-' := by
  rintro rfl
  revert h
  decide

/-- The ends of a label are letters or digits. -/
theorem IsLabel.isAlphanumeric {cs : List Char} (h : IsLabel cs) {c : Char} (hc : c ∈ cs)
    (hend : cs.head? = some c ∨ cs.getLast? = some c) : IsAlphanumeric c := by
  refine (h.chars c hc).resolve_right ?_
  rintro rfl
  exact hend.elim h.first h.last

theorem mem_label_iff {cs : List Char} :
    cs ∈ singles alphanumerics * (labelEnd + 1) ↔ IsLabel cs := by
  rw [Language.mem_mul]
  constructor
  · rintro ⟨_, ⟨c, hc, rfl⟩, _, ⟨u, hu, _, ⟨d, hd, rfl⟩, rfl⟩ | rfl, rfl⟩
    · have hc := mem_alphanumerics.mp hc
      have hd := mem_alphanumerics.mp hd
      obtain ⟨hlength, hu⟩ := mem_singles_add_one_pow.mp hu
      refine ⟨?_, ?_, ?_, ?_⟩
      · simp only [List.singleton_append, List.length_cons, List.length_append, List.length_nil]
        omega
      · intro e he
        simp only [List.singleton_append, List.mem_cons, List.mem_append, List.not_mem_nil,
          or_false] at he
        rcases he with rfl | he | rfl
        · exact .inl hc
        · exact mem_labelChars.mp (hu e he)
        · exact .inl hd
      · simpa using ne_hyphen_of_isAlphanumeric hc
      · rw [← List.append_assoc, List.getLast?_concat]
        simpa using ne_hyphen_of_isAlphanumeric hd
    · have hc := mem_alphanumerics.mp hc
      have hne := ne_hyphen_of_isAlphanumeric hc
      exact ⟨by simp, by simp [hc], by simpa using hne, by simpa using hne⟩
  · intro h
    obtain ⟨c, ds, rfl⟩ := List.exists_cons_of_length_pos h.length.1
    have hc := h.isAlphanumeric List.mem_cons_self (.inl rfl)
    refine ⟨[c], ⟨c, mem_alphanumerics.mpr hc, rfl⟩, ds, ?_, rfl⟩
    rcases List.eq_nil_or_concat ds with rfl | ⟨u, d, rfl⟩
    · exact .inr rfl
    · have hlength := h.length.2
      have hlast : (c :: u.concat d).getLast? = some d := by
        rw [List.concat_eq_append, ← List.cons_append, List.getLast?_concat]
      have hd := h.isAlphanumeric (List.mem_of_getLast? hlast) (.inr hlast)
      simp only [List.length_cons, List.concat_eq_append, List.length_append,
        List.length_nil] at hlength
      refine .inl ⟨u, mem_singles_add_one_pow.mpr ⟨by omega, ?_⟩, [d],
        ⟨d, mem_alphanumerics.mpr hd, rfl⟩, by simp⟩
      intro e he
      exact mem_labelChars.mpr (h.chars e (by simp [he]))

theorem mem_dottedLabel_iff {cs : List Char} :
    cs ∈ dottedLabel ↔ ∃ l, IsLabel l ∧ cs = '.' :: l := by
  rw [dottedLabel, Language.mem_mul]
  constructor
  · rintro ⟨u, hu, l, hl, rfl⟩
    rw [mem_single.mp hu]
    exact ⟨l, mem_label_iff.mp hl, rfl⟩
  · rintro ⟨l, hl, rfl⟩
    exact ⟨['.'], mem_single.mpr rfl, l, mem_label_iff.mpr hl, rfl⟩

theorem mem_dottedLabels_iff {cs : List Char} :
    cs ∈ dottedLabel∗ ↔
      ∃ labels : List (List Char), (∀ l ∈ labels, IsLabel l) ∧ cs = labels.flatMap ('.' :: ·) := by
  rw [Language.mem_kstar]
  constructor
  · rintro ⟨pieces, rfl, hpieces⟩
    induction pieces with
    | nil => exact ⟨[], nofun, rfl⟩
    | cons piece pieces ih =>
        rw [List.forall_mem_cons] at hpieces
        obtain ⟨l, hl, rfl⟩ := mem_dottedLabel_iff.mp hpieces.1
        obtain ⟨labels, hlabels, hcs⟩ := ih hpieces.2
        exact ⟨l :: labels, List.forall_mem_cons.mpr ⟨hl, hlabels⟩, by
          rw [List.flatten_cons, hcs, List.flatMap_cons]⟩
  · rintro ⟨labels, hlabels, rfl⟩
    refine ⟨labels.map ('.' :: ·), List.flatMap_def .., fun piece hpiece => ?_⟩
    obtain ⟨l, hl, rfl⟩ := List.mem_map.mp hpiece
    exact mem_dottedLabel_iff.mpr ⟨l, hlabels l hl, rfl⟩

/-- Labels with dots between them are the first one and the others with a dot before each. -/
theorem intercalate_cons (l : List Char) (labels : List (List Char)) :
    ['.'].intercalate (l :: labels) = l ++ labels.flatMap ('.' :: ·) := by
  induction labels generalizing l with
  | nil => simp [List.intercalate]
  | cons m labels ih =>
      rw [List.flatMap_cons, List.cons_append, ← ih m]
      simp [List.intercalate, List.intersperse]

/-- The pattern accepts exactly the texts of the grammar. -/
theorem isAddress_iff (s : String) : isAddress s = true ↔ IsAddress s := by
  rw [isAddress, pattern_eq, Except.toOption, Option.any_some, Pattern.isMatch, expr,
    isMatch_anchored forall₂_denotes_parts]
  simp only [List.prod_cons, List.prod_nil, mul_one, pow_zero, one_mul]
  rw [← mul_assoc (singles alphanumerics), Language.mem_mul]
  constructor
  · rintro ⟨localPart, hlocal, _, ⟨_, hat, _, ⟨l, hl, _, hdotted, rfl⟩, rfl⟩, hs⟩
    obtain rfl := mem_single.mp hat
    obtain ⟨labels, hlabels, rfl⟩ := mem_dottedLabels_iff.mp hdotted
    refine ⟨localPart, l :: labels, mem_localPart_iff.mp hlocal, nofun,
      List.forall_mem_cons.mpr ⟨mem_label_iff.mp hl, hlabels⟩, ?_⟩
    rw [intercalate_cons, ← hs]
    rfl
  · rintro ⟨localPart, labels, hlocal, hne, hlabels, hs⟩
    cases labels with
    | nil => exact (hne rfl).elim
    | cons l labels =>
        rw [List.forall_mem_cons] at hlabels
        rw [intercalate_cons] at hs
        exact ⟨localPart, mem_localPart_iff.mpr hlocal, _,
          ⟨['@'], mem_single.mpr rfl, _, ⟨l, mem_label_iff.mpr hlabels.1, _,
            mem_dottedLabels_iff.mpr ⟨labels, hlabels.2, rfl⟩, rfl⟩, rfl⟩, hs.symm⟩

end Conform.Email
