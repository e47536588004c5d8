import Conform.Path
import Conform.Proofs.Text.Digits

/-!
# The dotted form of a path

A key is ordinary when it is not empty and none of its characters is a point or a bracket.  The
dotted form of a path of ordinary keys is cut into segments in one way: a key ends where the next
segment begins, and the digits of an index end at its bracket.  Different paths of ordinary keys
therefore have different dotted forms.
-/

namespace Conform

namespace Segment

/-- Whether a character can stand in an ordinary key: the point and the brackets cannot. -/
def isKeyChar (c : Char) : Bool :=
  c != '.' && c != '[' && c != ']'

/-- Whether a segment is an index or an ordinary key, which is one or more characters other than
the point and the brackets. -/
def Ordinary : Segment → Prop
  | .key name => name.toList ≠ [] ∧ ∀ c ∈ name.toList, isKeyChar c = true
  | .index _ => True

instance (s : Segment) : Decidable s.Ordinary :=
  match s with
  | .key name =>
    decidable_of_iff (name.toList ≠ [] ∧ name.toList.all isKeyChar = true)
      (by rw [List.all_eq_true]; rfl)
  | .index _ => inferInstanceAs (Decidable True)

/-- What a segment adds to a dotted form that has begun: a key comes after a point. -/
def continuation : Segment → List Char
  | .key name => '.' :: name.toList
  | .index i => (index i).display.toList

/-- What can stand after a segment: nothing, or a text that begins with a point or an opening
bracket. -/
def Follows (rest : List Char) : Prop :=
  ∀ c, rest.head? = some c → c = '.' ∨ c = '['

theorem Follows.not_isKeyChar {rest : List Char} (h : Follows rest) (c : Char)
    (hc : rest.head? = some c) : isKeyChar c = false := by
  rcases h c hc with rfl | rfl
  · rfl
  · rfl

theorem toList_display_index (i : Nat) :
    (index i).display.toList = '[' :: (Nat.toDigits 10 i ++ [']']) := by
  simp [display]

section

variable {s t : Segment} {name other : String} {i j : Nat} {xs ys : List Char}

/-- A key ends where the next segment begins. -/
theorem key_append_inj (hname : (key name).Ordinary) (hother : (key other).Ordinary)
    (hxs : Follows xs) (hys : Follows ys) (h : name.toList ++ xs = other.toList ++ ys) :
    name = other ∧ xs = ys := by
  obtain ⟨hchars, hrest⟩ := Text.append_inj_of_class hname.2 hother.2 hxs.not_isKeyChar
    hys.not_isKeyChar h
  exact ⟨String.toList_injective hchars, hrest⟩

/-- The digits of an index end at the closing bracket, whatever stands after it. -/
theorem index_append_inj
    (h : (index i).display.toList ++ xs = (index j).display.toList ++ ys) : i = j ∧ xs = ys := by
  have hdigits (n : Nat) : ∀ c ∈ Nat.toDigits 10 n, Text.isDigit c = true := fun _ hc =>
    Nat.isDigit_of_mem_toDigits (by decide) (by decide) hc
  have hbracket (rest : List Char) :
      ∀ c, (']' :: rest).head? = some c → Text.isDigit c = false := by
    rintro c ⟨⟩
    rfl
  simp only [toList_display_index, List.cons_append, List.append_assoc, List.nil_append,
    List.cons_inj_right] at h
  obtain ⟨hwritten, hrest⟩ :=
    Text.append_inj_of_class (hdigits i) (hdigits j) (hbracket xs) (hbracket ys) h
  have hread := congrArg Text.decimalValue hwritten
  rw [Text.decimalValue_eq, Text.decimalValue_eq, Nat.ofDigitChars_ten_toDigits,
    Nat.ofDigitChars_ten_toDigits] at hread
  exact ⟨hread, List.tail_eq_of_cons_eq hrest⟩

/-- The segment that continues a dotted form is told from what follows it. -/
theorem continuation_append_inj (hs : s.Ordinary) (ht : t.Ordinary) (hxs : Follows xs)
    (hys : Follows ys) (h : s.continuation ++ xs = t.continuation ++ ys) : s = t ∧ xs = ys := by
  match s, t with
  | key name, key other =>
      obtain ⟨rfl, hrest⟩ := key_append_inj hs ht hxs hys (List.tail_eq_of_cons_eq h)
      exact ⟨rfl, hrest⟩
  | index i, index j =>
      obtain ⟨rfl, hrest⟩ := index_append_inj h
      exact ⟨rfl, hrest⟩
  | key name, index j =>
      rw [continuation, continuation, toList_display_index] at h
      exact absurd (List.head_eq_of_cons_eq h) (by decide)
  | index i, key other =>
      rw [continuation, continuation, toList_display_index] at h
      exact absurd (List.head_eq_of_cons_eq h) (by decide)

end

end Segment

namespace Path

/-- Whether every key of a path is ordinary. -/
def Ordinary (p : Path) : Prop :=
  ∀ s ∈ p, s.Ordinary

instance (p : Path) : Decidable p.Ordinary :=
  inferInstanceAs (Decidable (∀ s ∈ p, s.Ordinary))

theorem ordinary_cons {s : Segment} {p : Path} : Ordinary (s :: p) ↔ s.Ordinary ∧ p.Ordinary :=
  List.forall_mem_cons

theorem toList_displayTail_cons (s : Segment) (p : Path) :
    (displayTail (s :: p)).toList = s.continuation ++ p.displayTail.toList := by
  cases s with
  | key name => simp [displayTail, Segment.continuation]
  | index i => simp [displayTail, Segment.continuation]

theorem follows_displayTail (p : Path) : Segment.Follows p.displayTail.toList := by
  match p with
  | [] => exact nofun
  | .key name :: p =>
      rw [toList_displayTail_cons]
      rintro c ⟨⟩
      exact Or.inl rfl
  | .index i :: p =>
      rw [toList_displayTail_cons, Segment.continuation, Segment.toList_display_index]
      rintro c ⟨⟩
      exact Or.inr rfl

theorem displayTail_cons_ne_nil (s : Segment) (p : Path) : (displayTail (s :: p)).toList ≠ [] := by
  rw [toList_displayTail_cons]
  cases s with
  | key name => exact nofun
  | index i => simp [Segment.continuation, Segment.toList_display_index]

/-- Segment by segment, what is written after a first one can be read in one way. -/
theorem eq_of_displayTail_eq {p q : Path} (hp : p.Ordinary) (hq : q.Ordinary)
    (h : p.displayTail.toList = q.displayTail.toList) : p = q := by
  induction p generalizing q with
  | nil =>
      cases q with
      | nil => rfl
      | cons t q => exact absurd h.symm (displayTail_cons_ne_nil t q)
  | cons s p ih =>
      cases q with
      | nil => exact absurd h (displayTail_cons_ne_nil s p)
      | cons t q =>
          obtain ⟨hs, hp'⟩ := ordinary_cons.mp hp
          obtain ⟨ht, hq'⟩ := ordinary_cons.mp hq
          rw [toList_displayTail_cons, toList_displayTail_cons] at h
          obtain ⟨rfl, hrest⟩ := Segment.continuation_append_inj hs ht (follows_displayTail p)
            (follows_displayTail q) h
          rw [ih hp' hq' hrest]

/-- A dotted form with the point that a first key is written without. -/
def withPoint : List Char → List Char
  | [] => []
  | c :: cs => if c = '[' then c :: cs else '.' :: c :: cs

/-- The form after a first segment can be had from the dotted form: a first key does not begin like
an index. -/
theorem toList_displayTail_eq {p : Path} (hp : p.Ordinary) :
    p.displayTail.toList = withPoint p.display.toList := by
  match p with
  | [] => rfl
  | .index i :: p =>
      rw [toList_displayTail_cons, display, String.toList_append, Segment.continuation,
        Segment.toList_display_index]
      rfl
  | .key name :: p =>
      obtain ⟨⟨hnonempty, hchars⟩, -⟩ := ordinary_cons.mp hp
      rw [toList_displayTail_cons, display, String.toList_append, Segment.continuation,
        Segment.display]
      cases hname : name.toList with
      | nil => contradiction
      | cons c cs =>
          have hc : c ≠ '[' := by
            rintro rfl
            exact absurd (hchars '[' (hname ▸ List.mem_cons_self)) (by decide)
          rw [List.cons_append, List.cons_append, withPoint, if_neg hc]

/-- Paths of ordinary keys have one dotted form only if they are one path. -/
theorem display_inj {p q : Path} (hp : p.Ordinary) (hq : q.Ordinary) :
    p.display = q.display ↔ p = q := by
  constructor
  · intro h
    apply eq_of_displayTail_eq hp hq
    rw [toList_displayTail_eq hp, toList_displayTail_eq hq, h]
  · exact congrArg display

/-- Digits of one index and of two. -/
theorem display_inj_indices :
    let p : Path := [.key "rows", .index 1, .index 2]
    let q : Path := [.key "rows", .index 12]
    p.Ordinary ∧ q.Ordinary ∧ (p.display = q.display ↔ p = q) ∧ p.display ≠ q.display := by
  intro p q
  have hp : p.Ordinary := by decide
  have hq : q.Ordinary := by decide
  have hinj := display_inj hp hq
  exact ⟨hp, hq, hinj, mt hinj.mp (by decide)⟩

/-- A point in a key is not told from the point before one. -/
example : display [.key "a.b"] = display [.key "a", .key "b"] := by decide

end Path

end Conform
