import Conform.Path
import Conform.Proofs.Number.Whole
import Mathlib.Data.List.Infix

/-!
# Places inside values

When two places have nothing to do with each other, what stands at a place of a value, and which
values are the JSON form of a place.
-/

namespace Conform

namespace Path

/-- Two places of which neither is the other one or lies inside it. -/
def Apart (p q : Path) : Prop :=
  ¬p <+: q ∧ ¬q <+: p

instance (p q : Path) : Decidable (p.Apart q) :=
  inferInstanceAs (Decidable (¬p <+: q ∧ ¬q <+: p))

/-- Places below different children of one place are apart. -/
theorem apart_of_ne {place p q : Path} {a b : Segment} (h : a ≠ b) (hp : place ++ [a] <+: p)
    (hq : place ++ [b] <+: q) : p.Apart q := by
  have hboth {r : Path} (hp : place ++ [a] <+: r) (hq : place ++ [b] <+: r) : a = b := by
    have hprefix := List.prefix_of_prefix_length_le hp hq (by simp)
    simpa using hprefix
  exact ⟨fun hpq => h (hboth (hp.trans hpq) hq), fun hqp => h (hboth hp (hq.trans hqp))⟩

end Path

/-- What stands one step inside a value. -/
def Json.step? : Json → Segment → Option Json
  | .obj fields, .key name => Fields.get? fields name
  | .arr items, .index i => items[i]?
  | _, _ => none

namespace Path

/-- What stands at a place of a value, where the value may be undefined. -/
def resolve? : Path → Option Json → Option Json
  | [], w => w
  | segment :: rest, w => resolve? rest (w.bind fun x => x.step? segment)

end Path

/-! ## The JSON form -/

namespace Segment

/-- Whether an index of a segment is an unsigned 64-bit number. -/
def Fits : Segment → Prop
  | .key _ => True
  | .index i => i < 18446744073709551616

instance (s : Segment) : Decidable s.Fits :=
  match s with
  | .key _ => inferInstanceAs (Decidable True)
  | .index i => inferInstanceAs (Decidable (i < 18446744073709551616))

/-- The values that stand for a segment: strings, and the numbers of integer form from 0 to
`2 ^ 64 - 1`. -/
inductive Form : Json → Prop where
  | key (name : String) : Form (.str name)
  | index (i : Int) (h : 0 ≤ i ∧ i < 18446744073709551616) : Form (.num (.int i ⟨by omega, h.2⟩))

theorem toJson_index {i : Nat} (h : i < 18446744073709551616) :
    (index i).toJson = .num (.int i (by omega)) :=
  Json.ofInt_eq _

/-- A value is read as the one segment whose JSON form it is. -/
theorem ofJson?_eq_some_iff {v : Json} {s : Segment} :
    ofJson? v = some s ↔ s.Fits ∧ s.toJson = v := by
  constructor
  · intro h
    -- values of every other form are refused, floats among them
    match v, h with
    | .str name, h =>
        obtain rfl := Option.some.inj h
        exact ⟨trivial, rfl⟩
    | .num (.int i bounds), h =>
        by_cases hi : 0 ≤ i
        · obtain ⟨n, rfl⟩ := Int.eq_ofNat_of_zero_le hi
          obtain rfl : index n = s := by simpa [ofJson?, Number.toNat?] using h
          have hn : n < 18446744073709551616 := by omega
          exact ⟨hn, toJson_index hn⟩
        · simp [ofJson?, Number.toNat?, hi] at h
  · rintro ⟨hfits, rfl⟩
    cases s with
    | key name => rfl
    | index i =>
        rw [toJson_index hfits]
        simp [ofJson?, Number.toNat?]

/-- The JSON forms of the segments that fit are all the values that stand for one. -/
theorem form_iff {v : Json} : Form v ↔ ∃ s : Segment, s.Fits ∧ s.toJson = v := by
  constructor
  · rintro (name | ⟨i, h⟩)
    · exact ⟨.key name, trivial, rfl⟩
    · obtain ⟨n, rfl⟩ := Int.eq_ofNat_of_zero_le h.1
      have hn : n < 18446744073709551616 := by omega
      exact ⟨.index n, hn, toJson_index hn⟩
  · rintro ⟨s, hfits, rfl⟩
    cases s with
    | key name => exact .key name
    | index i =>
        have hi : i < 18446744073709551616 := hfits
        rw [toJson_index hi]
        exact .index i (by omega)

end Segment

namespace Path

/-- Whether every index of a path is an unsigned 64-bit number. -/
def Fits (p : Path) : Prop :=
  ∀ s ∈ p, s.Fits

instance (p : Path) : Decidable p.Fits :=
  inferInstanceAs (Decidable (∀ s ∈ p, s.Fits))

@[simp] theorem fits_nil : Fits [] :=
  List.forall_mem_nil _

@[simp] theorem fits_cons {s : Segment} {p : Path} : Fits (s :: p) ↔ s.Fits ∧ p.Fits :=
  List.forall_mem_cons

/-- The items of an array are read one by one: as segments, in their order. -/
theorem mapM_ofJson?_eq_some_iff {items : List Json} {p : Path} :
    items.mapM Segment.ofJson? = some p ↔ p.Fits ∧ p.map Segment.toJson = items := by
  induction items generalizing p with
  | nil => cases p <;> simp
  | cons x items ih =>
      cases p with
      | nil => simp [List.mapM_cons, Option.bind_eq_some_iff]
      | cons s p =>
          have hcons : (x :: items).mapM Segment.ofJson? = some (s :: p) ↔
              Segment.ofJson? x = some s ∧ items.mapM Segment.ofJson? = some p := by
            simp [List.mapM_cons, Option.bind_eq_some_iff]
          rw [hcons, Segment.ofJson?_eq_some_iff, ih, fits_cons, List.map_cons, List.cons.injEq,
            and_and_and_comm]

/-- A value is read as the one path whose JSON form it is. -/
theorem ofJson_eq_ok_iff {v : Json} {p : Path} : ofJson v = .ok p ↔ p.Fits ∧ p.toJson = v := by
  cases v with
  | arr items =>
      rw [toJson, Json.arr.injEq, ← mapM_ofJson?_eq_some_iff, ofJson]
      cases items.mapM Segment.ofJson? <;> simp
  | _ => simp [ofJson, toJson]

/-- Lists of values that stand for segments are the lists of their JSON forms. -/
theorem exists_map_toJson_iff {items : List Json} :
    (∃ p : Path, p.Fits ∧ p.map Segment.toJson = items) ↔ ∀ x ∈ items, Segment.Form x := by
  induction items with
  | nil => simp
  | cons x items ih =>
      rw [List.forall_mem_cons, ← ih, Segment.form_iff]
      constructor
      · rintro ⟨_ | ⟨s, p⟩, hfits, h⟩
        · exact absurd h (by simp)
        · obtain ⟨hs, hp⟩ := fits_cons.mp hfits
          obtain ⟨rfl, rfl⟩ := List.cons.inj h
          exact ⟨⟨s, hs, rfl⟩, p, hp, rfl⟩
      · rintro ⟨⟨s, hs, rfl⟩, p, hp, rfl⟩
        exact ⟨s :: p, fits_cons.mpr ⟨hs, hp⟩, rfl⟩

/-- Paths and their JSON forms correspond: the JSON form of a path is read as that path, the
values that are read as a path are the arrays of strings and of whole numbers from 0 to
`2 ^ 64 - 1` in integer form, and each of them is the JSON form of what it is read as. -/
theorem ofJson_correspondence (p : Path) (v : Json) :
    (p.Fits → ofJson p.toJson = .ok p) ∧
      ((∃ q, ofJson v = .ok q) ↔ ∃ items, v = .arr items ∧ ∀ x ∈ items, Segment.Form x) ∧
      ∀ q, ofJson v = .ok q → q.Fits ∧ q.toJson = v := by
  refine ⟨fun hfits => ofJson_eq_ok_iff.mpr ⟨hfits, rfl⟩, ?_, fun q => ofJson_eq_ok_iff.mp⟩
  simp only [ofJson_eq_ok_iff, ← exists_map_toJson_iff]
  constructor
  · rintro ⟨q, hfits, rfl⟩
    exact ⟨_, rfl, q, hfits, rfl⟩
  · rintro ⟨_, rfl, q, hfits, rfl⟩
    exact ⟨q, hfits, rfl⟩

/-- A key and the last index, back and forth. -/
theorem ofJson_correspondence_last_index :
    let p : Path := [.key "2", .index 18446744073709551615]
    let v : Json := .arr [.str "2", .num (.int 18446744073709551615 (by decide))]
    p.Fits ∧ ofJson p.toJson = .ok p ∧ (∃ q, ofJson v = .ok q) ∧ p.toJson = v := by
  intro p v
  have hfits : p.Fits := by decide
  obtain ⟨hback, haccepted, hexact⟩ := ofJson_correspondence p v
  have hread : ∃ q, ofJson v = .ok q :=
    haccepted.mpr ⟨_, rfl, by simp [Segment.Form.key, Segment.Form.index]⟩
  exact ⟨hfits, hback hfits, hread, (hexact p rfl).2⟩

end Path

end Conform
