import Conform.Format.Basic
import Conform.Proofs.Text.Blank
import Conform.Proofs.Text.Digits
import Mathlib.Data.List.Forall2

/-!
# Reading UUIDs back

The canonical text of a UUID reads back as the UUID.
-/

namespace Conform

namespace Uuid

open Text

/-- The number that hexadecimal digits write, behind one that was read before them. -/
def readDigits (n : Nat) (ds : List Char) : Option Nat :=
  ds.foldlM (fun n d => (hexValue? d).map (16 * n + ·)) n

theorem readDigits_append (n : Nat) (ds es : List Char) :
    readDigits n (ds ++ es) = (readDigits n ds).bind fun m => readDigits m es := by
  simp [readDigits, List.foldlM_append]

theorem readDigits_zeros (k : Nat) : readDigits 0 (List.replicate k '0') = some 0 := by
  induction k with
  | zero => rfl
  | succ k ih =>
      rw [List.replicate_succ]
      exact ih

/-- Hexadecimal digits read back as the number they write. -/
theorem readDigits_toDigits (n : Nat) : readDigits 0 (Nat.toDigits 16 n) = some n := by
  induction n using Nat.strongRecOn with
  | ind n ih =>
      rw [Nat.toDigits_eq_if (by decide)]
      split
      · rename_i hsmall
        simp [readDigits, hexValue?_digitChar n hsmall]
      · rename_i hlarge
        rw [readDigits_append, ih (n / 16) (by omega)]
        simp only [readDigits, Option.bind_some, List.foldlM_cons, List.foldlM_nil,
          hexValue?_digitChar (n % 16) (Nat.mod_lt n (by decide))]
        simp
        omega

/-- The hexadecimal digits of a UUID. -/
def digits (u : Uuid) : List Char :=
  (hexDigits 32 u.value).toList

theorem length_digits (u : Uuid) : u.digits.length = 32 := by
  have hlt : u.value < 16 ^ 32 := u.lt
  have hlength := (Nat.length_toDigits_le_iff (b := 16) (by decide) (by decide)).mpr hlt
  rw [digits, toList_hexDigits, List.length_append, List.length_replicate]
  omega

theorem ofDigits?_digits (u : Uuid) : ofDigits? u.digits = some u := by
  have hread : readDigits 0 u.digits = some u.value := by
    rw [digits, toList_hexDigits, readDigits_append, readDigits_zeros]
    exact readDigits_toDigits u.value
  rw [readDigits] at hread
  rw [ofDigits?, if_pos u.length_digits, hread]
  obtain ⟨value, lt⟩ := u
  simp [ofNat, Nat.mod_eq_of_lt lt]

/-! ### The hyphenated form -/

theorem ofHyphenated?_append {as bs cs ds es : List Char} (ha : as.length = 8)
    (hb : bs.length = 4) (hc : cs.length = 4) (hd : ds.length = 4) (he : es.length = 12) :
    ofHyphenated? (as ++ '-' :: (bs ++ '-' :: (cs ++ '-' :: (ds ++ '-' :: es)))) =
      ofDigits? (as ++ bs ++ cs ++ ds ++ es) := by
  simp [ofHyphenated?, List.drop_append, List.drop_eq_nil_of_le, ha, hb, hc, hd, he]

theorem toList_text (u : Uuid) :
    u.text.toList = u.digits.take 8 ++ '-' :: ((u.digits.drop 8).take 4 ++
      '-' :: ((u.digits.drop 12).take 4 ++ '-' :: ((u.digits.drop 16).take 4 ++
        '-' :: u.digits.drop 20))) := by
  have hlast : (u.digits.drop 20).take 12 = u.digits.drop 20 :=
    List.take_of_length_le (by simp [length_digits])
  rw [← hlast]
  simp [text, digits]

theorem length_text (u : Uuid) : u.text.toList.length = 36 := by
  simp [toList_text, length_digits]

theorem exists_digitChar_of_mem_toDigits {n : Nat} {c : Char} (h : c ∈ Nat.toDigits 16 n) :
    ∃ d < 16, c = Nat.digitChar d := by
  induction n using Nat.strongRecOn with
  | ind n ih =>
      rw [Nat.toDigits_eq_if (by decide)] at h
      split at h
      · rename_i hsmall
        exact ⟨n, hsmall, by simpa using h⟩
      · rcases List.mem_append.mp h with h | h
        · exact ih (n / 16) (by omega) h
        · exact ⟨n % 16, Nat.mod_lt n (by decide), by simpa using h⟩

theorem exists_digitChar_of_mem {u : Uuid} {c : Char} (h : c ∈ u.digits) :
    ∃ d < 16, c = Nat.digitChar d := by
  rw [digits, toList_hexDigits, List.mem_append] at h
  rcases h with h | h
  · exact ⟨0, by decide, List.eq_of_mem_replicate h⟩
  · exact exists_digitChar_of_mem_toDigits h

/-- A hexadecimal digit is no blank and does not begin the form with a prefix. -/
theorem digitChar_facts : ∀ d < 16,
    isBlank (Nat.digitChar d) = false ∧ lowerAscii (Nat.digitChar d) ≠ 'u' := by decide

/-- The canonical text begins and ends with a digit. -/
theorem ends_text (u : Uuid) :
    (∃ c ∈ u.digits, u.text.toList.head? = some c) ∧
      ∃ c ∈ u.digits, u.text.toList.getLast? = some c := by
  have hlength := u.length_digits
  rw [toList_text]
  constructor
  · refine ⟨u.digits[0], List.getElem_mem _, ?_⟩
    simp [List.head?_eq_getElem?, hlength]
  · refine ⟨u.digits[31], List.getElem_mem _, ?_⟩
    simp [List.getLast?_eq_getElem?, hlength]

theorem unpadded_text (u : Uuid) : Unpadded u.text.toList := by
  obtain ⟨⟨a, ha, hhead⟩, b, hb, hlast⟩ := u.ends_text
  constructor
  · intro c hc
    obtain rfl : a = c := Option.some.inj (hhead.symm.trans hc)
    obtain ⟨d, hd, rfl⟩ := exists_digitChar_of_mem ha
    exact (digitChar_facts d hd).1
  · intro c hc
    obtain rfl : b = c := Option.some.inj (hlast.symm.trans hc)
    obtain ⟨d, hd, rfl⟩ := exists_digitChar_of_mem hb
    exact (digitChar_facts d hd).1

theorem ofHyphenated?_text (u : Uuid) : ofHyphenated? u.text.toList = some u := by
  have hlength := u.length_digits
  rw [toList_text, ofHyphenated?_append (by simp [hlength]) (by simp [hlength])
    (by simp [hlength]) (by simp [hlength]) (by simp [hlength])]
  have hjoin : ∀ i k, (u.digits.drop i).take k ++ u.digits.drop (i + k) = u.digits.drop i := by
    intro i k
    rw [← List.drop_drop, List.take_append_drop]
  have hdigits : u.digits.take 8 ++ (u.digits.drop 8).take 4 ++ (u.digits.drop 12).take 4 ++
      (u.digits.drop 16).take 4 ++ u.digits.drop 20 = u.digits := by
    rw [List.append_assoc, hjoin 16 4, List.append_assoc, hjoin 12 4, List.append_assoc,
      hjoin 8 4, List.take_append_drop]
  rw [hdigits, ofDigits?_digits]

/-- The canonical text of a UUID reads back as the UUID. -/
theorem ofText?_text (u : Uuid) : ofText? u.text = some u := by
  obtain ⟨⟨a, ha, hhead⟩, -⟩ := u.ends_text
  have hlength := u.length_text
  have hprefix : (u.text.toList.take 9).map lowerAscii ≠ "urn:uuid:".toList := by
    intro h
    have hfirst := congrArg List.head? h
    rw [List.head?_map, List.head?_take, if_neg (by decide), hhead] at hfirst
    obtain ⟨d, hd, rfl⟩ := exists_digitChar_of_mem ha
    exact (digitChar_facts d hd).2 (Option.some.inj hfirst)
  have hplain : ofDigits? u.text.toList = none := by
    rw [ofDigits?, if_neg (by omega)]
  simp only [ofText?]
  rw [if_neg (by omega), if_neg hprefix, hplain, ofHyphenated?_text]
  rfl

/-- Different UUIDs have different canonical texts. -/
theorem text_inj {u w : Uuid} : u.text = w.text ↔ u = w := by
  constructor
  · intro h
    have hread := congrArg ofText? h
    rw [ofText?_text, ofText?_text] at hread
    exact Option.some.inj hread
  · exact congrArg text

/-! ### The shape of canonical texts -/

def lowerDigits : List Char :=
  "0123456789abcdef".toList

/-- The shape of canonical texts, with a mark in the place of each digit. -/
def shape : List Char :=
  "xxxxxxxx-xxxx-xxxx-xxxx-xxxxxxxxxxxx".toList

/-- Whether a character can stand in the place of a mark of the shape: a lower-case digit in that of
an `x`, and the mark itself elsewhere. -/
def Fits (mark c : Char) : Prop :=
  if mark = 'x' then c ∈ lowerDigits else c = mark

theorem digitChar_mem_lowerDigits : ∀ d < 16, Nat.digitChar d ∈ lowerDigits := by decide

/-- Digits fit, and so does a hyphen after them. -/
theorem fits_digits {u : Uuid} {ds : List Char} (hds : ds <:+: u.digits) {n : Nat}
    (hlength : ds.length = n) : List.Forall₂ Fits (List.replicate n 'x') ds := by
  subst hlength
  rw [List.forall₂_iff_get]
  refine ⟨List.length_replicate, ?_⟩
  intro i hi hi'
  obtain ⟨d, hd, hdigit⟩ := exists_digitChar_of_mem (hds.mem (List.get_mem ds ⟨i, hi'⟩))
  rw [Fits, if_pos (by simp), hdigit]
  exact digitChar_mem_lowerDigits d hd

theorem fits_hyphen {marks cs : List Char} (h : List.Forall₂ Fits marks cs) :
    List.Forall₂ Fits ('-' :: marks) ('-' :: cs) := by
  refine .cons ?_ h
  rw [Fits, if_neg (by decide)]

/-- The canonical text has its shape. -/
theorem fits_text (u : Uuid) : List.Forall₂ Fits shape u.text.toList := by
  have hlength := u.length_digits
  have hshape : shape = List.replicate 8 'x' ++ '-' :: (List.replicate 4 'x' ++
      '-' :: (List.replicate 4 'x' ++ '-' :: (List.replicate 4 'x' ++
        '-' :: List.replicate 12 'x'))) := by decide
  have hpart : ∀ i k, i + k ≤ 32 →
      List.Forall₂ Fits (List.replicate k 'x') ((u.digits.drop i).take k) := by
    intro i k hik
    refine fits_digits (u := u) ?_ (by simp only [List.length_take, List.length_drop]; omega)
    exact (List.take_prefix k _).isInfix.trans (List.drop_suffix i _).isInfix
  rw [toList_text, hshape]
  refine List.rel_append (hpart 0 8 (by decide)) (fits_hyphen ?_)
  refine List.rel_append (hpart 8 4 (by decide)) (fits_hyphen ?_)
  refine List.rel_append (hpart 12 4 (by decide)) (fits_hyphen ?_)
  refine List.rel_append (hpart 16 4 (by decide)) (fits_hyphen ?_)
  exact fits_digits (List.drop_suffix 20 _).isInfix (by simp [hlength])

/-! ### Texts that are read have no blanks around them -/

theorem isBlank_of_hexValue? {c : Char} {n : Nat} (h : hexValue? c = some n) :
    isBlank c = false := by
  simp only [hexValue?, isDigit, Bool.and_eq_true, decide_eq_true_eq, le_iff_toNat_le] at h
  have hdigits : '0'.toNat = 48 ∧ '9'.toNat = 57 := by decide
  have hlower : 'a'.toNat = 97 ∧ 'f'.toNat = 102 := by decide
  have hupper : 'A'.toNat = 65 ∧ 'F'.toNat = 70 := by decide
  apply isBlank_of_toNat
  split_ifs at h <;> omega

theorem isBlank_of_lowerAscii {c : Char} (h : lowerAscii c = 'u') : isBlank c = false := by
  rw [lowerAscii] at h
  split at h
  · rename_i hupper
    have hends : 'A'.toNat = 65 ∧ 'Z'.toNat = 90 := by decide
    rw [le_iff_toNat_le, le_iff_toNat_le] at hupper
    exact isBlank_of_toNat (by omega)
  · subst h
    decide

/-- Whatever is read as digits consists of hexadecimal digits. -/
theorem isBlank_of_readDigits {ds : List Char} {n m : Nat} (h : readDigits n ds = some m) {c : Char}
    (hc : c ∈ ds) : isBlank c = false := by
  induction ds generalizing n with
  | nil => exact (List.not_mem_nil hc).elim
  | cons d ds ih =>
      obtain ⟨k, hk, hds⟩ := Option.bind_eq_some_iff.mp h
      rcases List.mem_cons.mp hc with rfl | hc
      · obtain ⟨v, hv, -⟩ := Option.map_eq_some_iff.mp hk
        exact isBlank_of_hexValue? hv
      · exact ih hds hc

theorem isBlank_of_ofDigits? {ds : List Char} {u : Uuid} (h : ofDigits? ds = some u) :
    ds.length = 32 ∧ ∀ c ∈ ds, isBlank c = false := by
  rw [ofDigits?] at h
  split at h
  · rename_i hlength
    obtain ⟨n, hn, -⟩ := Option.map_eq_some_iff.mp h
    exact ⟨hlength, fun c hc => isBlank_of_readDigits hn hc⟩
  · contradiction

theorem unpadded_of_ofHyphenated? {cs : List Char} {u : Uuid} (h : ofHyphenated? cs = some u) :
    cs.length = 36 ∧ Unpadded cs := by
  rw [ofHyphenated?] at h
  split at h
  · rename_i hhyphens
    have hlength := hhyphens.1
    obtain ⟨-, hblank⟩ := isBlank_of_ofDigits? h
    refine ⟨hlength, ?_, ?_⟩
    · intro c hc
      have hfirst : (cs.take 8).head? = some c := by rw [List.head?_take, if_neg (by decide), hc]
      exact hblank c (by simp [List.mem_of_head? hfirst])
    · intro c hc
      have hlast : (cs.drop 24).getLast? = some c := by
        rw [List.getLast?_drop, if_neg (by omega), hc]
      exact hblank c (by simp [List.mem_of_getLast? hlast])
  · contradiction

/-- A text that is read as a UUID has no blank at either end. -/
theorem unpadded_of_ofText? {s : String} {u : Uuid} (h : ofText? s = some u) :
    Unpadded s.toList := by
  simp only [ofText?] at h
  generalize s.toList = cs at h ⊢
  split at h
  · rename_i hbraces
    constructor
    · intro c hc
      obtain rfl := Option.some.inj (hbraces.2.1.symm.trans hc)
      decide
    · intro c hc
      obtain rfl := Option.some.inj (hbraces.2.2.symm.trans hc)
      decide
  · split at h
    · rename_i hprefix
      obtain ⟨hlength, hends⟩ := unpadded_of_ofHyphenated? h
      rw [List.length_drop] at hlength
      constructor
      · intro c hc
        have hfirst := congrArg List.head? hprefix
        rw [List.head?_map, List.head?_take, if_neg (by decide), hc] at hfirst
        exact isBlank_of_lowerAscii (Option.some.inj hfirst)
      · intro c hc
        refine hends.last c ?_
        rw [List.getLast?_drop, if_neg (by omega), hc]
    · cases hdigits : ofDigits? cs with
      | some w =>
          obtain ⟨-, hblank⟩ := isBlank_of_ofDigits? hdigits
          exact ⟨fun c hc => hblank c (List.mem_of_head? hc),
            fun c hc => hblank c (List.mem_of_getLast? hc)⟩
      | none =>
          rw [hdigits] at h
          exact (unpadded_of_ofHyphenated? h).2

end Uuid

end Conform
