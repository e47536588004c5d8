import Conform.Config.Reader
import Conform.Proofs.Text.Digits
import Mathlib.Tactic.SplitIfs

/-!
# What scanners read

A scanner reads a value off the start of a text, or refuses the text, wherever the text stands in a
longer one.  The two are stated for every scanner of the reader of configurations, from the ones
that take a character up to the one that reads a string.
-/

namespace Conform.Config.Scanner

variable {α β : Type} {s : Scanner α} {f : α → Scanner β} {a : α} {b : β}
  {cs mid rest : List Char}

/-- A scanner reads a value off a text and stops in front of what is left. -/
def Reads (s : Scanner α) (cs : List Char) (a : α) (rest : List Char) : Prop :=
  ∀ c : Cursor, c.rest = cs → ∃ c' : Cursor, s.run c = (.ok a, c') ∧ c'.rest = rest

/-- A scanner ends with an error. -/
def Refuses (s : Scanner α) (cs : List Char) : Prop :=
  ∀ c : Cursor, c.rest = cs → ∃ e c', s.run c = (.error e, c')

/-! ### Steps in turn -/

theorem run_bind (s : Scanner α) (f : α → Scanner β) (c : Cursor) :
    (s >>= f).run c =
      match s.run c with
      | (.ok a, c') => (f a).run c'
      | (.error e, c') => (.error e, c') := by
  change ExceptT.bindCont f (s c).1 (s c).2 = _
  rw [ExceptT.run]
  rcases s c with ⟨_ | _, _⟩ <;> rfl

theorem reads_pure : Reads (pure a) cs a cs :=
  fun c hc => ⟨c, rfl, hc⟩

theorem Reads.bind (h : Reads s cs a mid) (hf : Reads (f a) mid b rest) :
    Reads (s >>= f) cs b rest := by
  intro c hc
  obtain ⟨c', hrun, hc'⟩ := h c hc
  rw [run_bind, hrun]
  exact hf c' hc'

theorem Reads.bind_refuses (h : Reads s cs a mid) (hf : Refuses (f a) mid) :
    Refuses (s >>= f) cs := by
  intro c hc
  obtain ⟨c', hrun, hc'⟩ := h c hc
  rw [run_bind, hrun]
  exact hf c' hc'

theorem Refuses.bind (h : Refuses s cs) : Refuses (s >>= f) cs := by
  intro c hc
  obtain ⟨e, c', hrun⟩ := h c hc
  rw [run_bind, hrun]
  exact ⟨e, c', rfl⟩

/-- What follows an outcome that is refused whatever it is does not matter. -/
theorem refuses_bind (s : Scanner α) (hf : ∀ a cs, Refuses (f a) cs) : Refuses (s >>= f) cs := by
  intro c _
  rw [run_bind]
  rcases s.run c with ⟨e | a, c'⟩
  · exact ⟨e, c', rfl⟩
  · exact hf a c'.rest c' rfl

/-- A scanner that looks at its cursor. -/
theorem reads_get_bind {f : Cursor → Scanner β}
    (h : ∀ c : Cursor, c.rest = cs → Reads (f c) cs b rest) : Reads (get >>= f) cs b rest := by
  intro c hc
  rw [run_bind]
  exact h c hc c hc

theorem refuses_get_bind {f : Cursor → Scanner β} (h : ∀ c cs, Refuses (f c) cs) :
    Refuses (get >>= f) cs :=
  refuses_bind get h

theorem refuses_throw (e : ConfigError) : Refuses (throw e : Scanner α) cs :=
  fun c _ => ⟨e, c, rfl⟩

theorem refuses_raise (p : ConfigProblem) : Refuses (raise p : Scanner α) cs :=
  refuses_throw _

theorem refuses_failNext (reason : String) : Refuses (failNext reason : Scanner α) cs :=
  refuses_get_bind fun _ _ => refuses_throw _

/-! ### Errors that are placed or come late -/

theorem run_map (s : Scanner α) (g : α → β) (c : Cursor) :
    (s.map g : Scanner β).run c = ((s.run c).1.map g, (s.run c).2) := by
  simp only [ExceptT.map, ExceptT.run, ExceptT.mk, bind, StateT.bind]
  rcases s c with ⟨_ | _, _⟩ <;> rfl

theorem run_tryCatch (s : Scanner α) (handle : ConfigError → Scanner α) (c : Cursor) :
    (tryCatch s handle : Scanner α).run c =
      match s.run c with
      | (.ok a, c') => (.ok a, c')
      | (.error e, c') => (handle e).run c' := by
  simp only [tryCatch, tryCatchThe, MonadExceptOf.tryCatch, ExceptT.tryCatch, ExceptT.run,
    ExceptT.mk, bind, StateT.bind]
  rcases s c with ⟨_ | _, _⟩ <;> rfl

theorem Reads.placed (h : Reads s cs a rest) : Reads (placed s) cs a rest := by
  intro c hc
  obtain ⟨c', hrun, hc'⟩ := h c hc
  exact ⟨c', by rw [Scanner.placed, run_tryCatch, hrun], hc'⟩

theorem Refuses.placed (h : Refuses s cs) : Refuses (placed s) cs := by
  intro c hc
  obtain ⟨e, c', hrun⟩ := h c hc
  rw [Scanner.placed, run_tryCatch, hrun]
  exact ⟨_, _, rfl⟩

/-- The outcome of a scanner as a value, an error included. -/
theorem run_outcome (s : Scanner α) (c : Cursor) :
    (tryCatch (s.map .ok) fun e => return .error e : Scanner (Except ConfigError α)).run c =
      (.ok (s.run c).1, (s.run c).2) := by
  rw [run_tryCatch, run_map]
  rcases s.run c with ⟨_ | _, _⟩ <;> rfl

variable {close : Scanner Unit}

/-- The body is read first, and what closes it from where the body has come to. -/
theorem run_closedBy (body : Scanner α) (c : Cursor) :
    (closedBy body close).run c =
      (match (body.run c).1, (close.run (body.run c).2).1 with
        | .ok a, .ok () => .ok a
        | .error e, _ => .error e
        | _, .error e => .error e, (close.run (body.run c).2).2) := by
  rw [closedBy, run_bind, run_outcome]
  dsimp only
  rw [run_bind, run_outcome]
  rcases body.run c with ⟨_ | _, c'⟩
  · rfl
  · dsimp only
    rcases close.run c' with ⟨_ | _, _⟩ <;> rfl

theorem Reads.closedBy (h : Reads s cs a mid) (hclose : Reads close mid () rest) :
    Reads (s.closedBy close) cs a rest := by
  intro c hc
  obtain ⟨c', hrun, hc'⟩ := h c hc
  obtain ⟨c'', hrun', hc''⟩ := hclose c' hc'
  exact ⟨c'', by rw [run_closedBy, hrun, hrun'], hc''⟩

theorem Reads.closedBy_refuses (h : Reads s cs a mid) (hclose : Refuses close mid) :
    Refuses (s.closedBy close) cs := by
  intro c hc
  obtain ⟨c', hrun, hc'⟩ := h c hc
  obtain ⟨e, c'', hrun'⟩ := hclose c' hc'
  exact ⟨e, c'', by rw [run_closedBy, hrun, hrun']⟩

/-- What closes a refused text is tried, but does not save it. -/
theorem Refuses.closedBy (h : Refuses s cs) : Refuses (s.closedBy close) cs := by
  intro c hc
  obtain ⟨e, c', hrun⟩ := h c hc
  exact ⟨e, (close.run c').2, by rw [run_closedBy, hrun]⟩

/-! ### Characters -/

theorem reads_peek : Reads peek cs cs.head? cs :=
  reads_get_bind fun _ hc => hc ▸ reads_pure

theorem reads_take (d : Char) : Reads take (d :: cs) () cs := by
  intro c hc
  refine ⟨_, rfl, ?_⟩
  simp only [hc]
  split
  · contradiction
  · rename_i h
    exact (List.cons.inj h).2.symm
  · rename_i h
    exact (List.cons.inj h).2.symm

/-- Taking one character for each of a list takes the characters of the list. -/
theorem reads_takeEach (ds rest : List Char) :
    Reads (forIn ds PUnit.unit fun _ _ => do take; pure (ForInStep.yield PUnit.unit))
      (ds ++ rest) PUnit.unit rest := by
  induction ds with
  | nil => exact reads_pure
  | cons d ds ih =>
      rw [List.forIn_cons]
      have hstep : Reads (do take; pure (ForInStep.yield PUnit.unit)) (d :: (ds ++ rest))
          (ForInStep.yield PUnit.unit) (ds ++ rest) := (reads_take d).bind reads_pure
      exact hstep.bind ih

theorem reads_takeWhile (p : Char → Bool) (cs : List Char) :
    Reads (takeWhile p) cs (cs.takeWhile p) (cs.dropWhile p) := by
  refine reads_get_bind fun c hc => ?_
  have htake := reads_takeEach (cs.takeWhile p) (cs.dropWhile p)
  rw [List.takeWhile_append_dropWhile] at htake
  rw [hc]
  exact htake.bind reads_pure

theorem reads_peekToken_nil : Reads peekToken [] none [] :=
  (reads_takeWhile Json.isSpace []).bind reads_peek

/-- Where a text does not begin with a space, no spaces are skipped. -/
theorem reads_peekToken {d : Char} (hd : Json.isSpace d = false) :
    Reads peekToken (d :: cs) (some d) (d :: cs) := by
  have hskip := reads_takeWhile Json.isSpace (d :: cs)
  rw [List.takeWhile_cons_of_neg (by simp [hd]), List.dropWhile_cons_of_neg (by simp [hd])] at hskip
  exact hskip.bind reads_peek

theorem reads_word (ds : List Char) : Reads (word ds) (ds ++ rest) () rest := by
  induction ds with
  | nil => exact reads_pure
  | cons d ds ih =>
      refine reads_peek.bind ?_
      rw [List.cons_append, List.head?_cons]
      simp only [↓reduceIte]
      exact (reads_take d).bind ih

/-- A value that is not expected is refused, however far it can be read. -/
theorem refuses_unexpected (expected : String) : Refuses (unexpected expected : Scanner α) cs :=
  refuses_bind _ fun _ _ => refuses_raise _

/-! ### Strings -/

theorem placeAfter?_zero (line column : Nat) :
    placeAfter? line column 0 cs = some (line, column) := by
  rw [placeAfter?.eq_def, if_pos rfl]

/-- A character of one byte that ends no line. -/
def OneColumn (d : Char) : Prop :=
  d ≠ '\n' ∧ d.utf8Size = 1

instance (d : Char) : Decidable (OneColumn d) :=
  inferInstanceAs (Decidable (_ ∧ _))

theorem placeAfter?_cons {line column n : Nat} {d : Char} (hd : OneColumn d) :
    placeAfter? line column (n + 1) (d :: cs) = placeAfter? line (column + 1) n cs := by
  obtain ⟨hline, hsize⟩ := hd
  simp [placeAfter?, hsize]

theorem reads_hexQuad {w x y z : Char} {n : Nat} (hw : OneColumn w) (hx : OneColumn x)
    (hy : OneColumn y) (hz : OneColumn z) (h : Json.hexQuad? w x y z = some n) :
    Reads hexQuad (w :: x :: y :: z :: rest) n rest := by
  refine reads_get_bind fun c hc => ?_
  have hplace : placeAfter? c.line c.column 4 c.rest = some (c.line, c.column + 1 + 1 + 1 + 1) := by
    rw [hc, placeAfter?_cons hw, placeAfter?_cons hx, placeAfter?_cons hy, placeAfter?_cons hz,
      placeAfter?_zero]
  rw [hplace, hc]
  simp only [List.take_succ_cons, List.take_zero, h]
  exact (reads_takeEach [w, x, y, z] rest).bind reads_pure

theorem reads_escape {d e : Char} (hd : d ≠ 'u') (h : Json.simpleEscape? d = some e) :
    Reads escape (d :: rest) e rest := by
  refine reads_peek.bind ?_
  rw [List.head?_cons]
  split
  · contradiction
  · rename_i h'
    exact (hd (Option.some.inj h')).elim
  · rename_i h'
    obtain rfl := Option.some.inj h'
    rw [h]
    exact (reads_take _).bind reads_pure

theorem oneColumn_digitChar : ∀ d < 16, OneColumn (Nat.digitChar d) := by decide

theorem hexQuad?_hexDigits {n : Nat} (h : n < 256) :
    Json.hexQuad? '0' '0' (Nat.digitChar (n / 16)) (Nat.digitChar (n % 16)) = some n := by
  have hzero : Text.hexValue? '0' = some 0 := rfl
  have hvalue : ((0 * 16 + 0) * 256 + n / 16 * 16) + n % 16 = n := by omega
  rw [Json.hexQuad?, hzero, Text.hexValue?_digitChar _ (by omega),
    Text.hexValue?_digitChar _ (by omega)]
  exact congrArg some hvalue

/-- The escape of a control character, which has no letter of its own. -/
theorem reads_escape_control {d : Char} (hd : d.toNat < 0x20) :
    Reads escape ('u' :: ((Text.hexDigits 4 d.toNat).toList ++ rest)) d rest := by
  have hchar : Char.ofNat d.toNat = d := Char.ofNat_toNat d
  have hzero := oneColumn_digitChar 0 (by decide)
  have hhigh := oneColumn_digitChar (d.toNat / 16) (by omega)
  have hlow := oneColumn_digitChar (d.toNat % 16) (by omega)
  have hread := hexQuad?_hexDigits (Nat.lt_trans hd (by decide))
  refine reads_peek.bind ?_
  rw [List.head?_cons, Text.toList_hexDigits_of_lt (by omega)]
  refine (reads_take 'u').bind ((reads_hexQuad hzero hzero hhigh hlow hread).bind ?_)
  rw [if_neg (by omega), if_neg (by omega), hchar]
  exact reads_pure

/-- A character is read as it is written inside a string. -/
theorem reads_stringBody_char {t : String} {d : Char} {fuel : Nat} {read : List Char}
    (h : Reads (stringBody fuel (d :: read)) mid t rest) :
    Reads (stringBody (fuel + 1) read) (Json.escapeChar d ++ mid) t rest := by
  -- a letter after a backslash, for the characters that have one
  have hletter {l : Char} (hu : l ≠ 'u') (hl : Json.simpleEscape? l = some d) :
      Reads (stringBody (fuel + 1) read) ('\\' :: l :: mid) t rest := by
    rw [stringBody]
    exact reads_peek.bind ((reads_take '\\').bind ((reads_escape hu hl).bind h))
  unfold Json.escapeChar
  split_ifs with hquote hbackslash hbackspace hfeed hline hreturn htab hcontrol
  · exact hletter (by decide) (by rw [hquote]; rfl)
  · exact hletter (by decide) (by rw [hbackslash]; rfl)
  · exact hletter (by decide) (by rw [hbackspace]; rfl)
  · exact hletter (by decide) (by rw [hfeed]; rfl)
  · exact hletter (by decide) (by rw [hline]; rfl)
  · exact hletter (by decide) (by rw [hreturn]; rfl)
  · exact hletter (by decide) (by rw [htab]; rfl)
  · rw [stringBody]
    exact reads_peek.bind ((reads_take '\\').bind ((reads_escape_control hcontrol).bind h))
  · rw [stringBody]
    refine reads_peek.bind ?_
    rw [List.singleton_append, List.head?_cons]
    split
    · contradiction
    · rename_i h'
      exact (hquote (Option.some.inj h')).elim
    · rename_i h'
      exact (hbackslash (Option.some.inj h')).elim
    · rename_i h'
      obtain rfl := Option.some.inj h'
      rw [if_neg hcontrol]
      exact (reads_take _).bind h

theorem reads_stringBody (read rest : List Char) {fuel : Nat} (hfuel : cs.length < fuel) :
    Reads (stringBody fuel read) (cs.flatMap Json.escapeChar ++ '"' :: rest)
      (String.ofList (read.reverse ++ cs)) rest := by
  induction cs generalizing fuel read with
  | nil =>
      obtain ⟨fuel, rfl⟩ := Nat.exists_eq_add_one.mpr hfuel
      rw [stringBody, List.append_nil]
      exact reads_peek.bind ((reads_take '"').bind reads_pure)
  | cons d cs ih =>
      obtain ⟨fuel, rfl⟩ := Nat.exists_eq_add_one.mpr (Nat.zero_lt_of_lt hfuel)
      have hrest := ih (d :: read) (Nat.lt_of_succ_lt_succ hfuel)
      rw [List.reverse_cons, List.append_assoc, List.singleton_append] at hrest
      rw [List.flatMap_cons, List.append_assoc]
      exact reads_stringBody_char hrest

/-- Every character is written as one or more. -/
theorem length_le_flatMap_escapeChar (cs : List Char) :
    cs.length ≤ (cs.flatMap Json.escapeChar).length := by
  induction cs with
  | nil => exact Nat.le_refl 0
  | cons d cs ih =>
      have hd : 0 < (Json.escapeChar d).length := by
        unfold Json.escapeChar
        split_ifs <;> exact Nat.zero_lt_succ _
      rw [List.flatMap_cons, List.length_append, List.length_cons]
      omega

/-- A string is read as it was written. -/
theorem reads_string (t : String) : Reads string (Json.writeString t ++ rest) t rest := by
  have hbody (c : Cursor)
      (hc : c.rest = t.toList.flatMap Json.escapeChar ++ '"' :: rest) :
      Reads (stringBody (c.rest.length + 1) []) (t.toList.flatMap Json.escapeChar ++ '"' :: rest) t
        rest := by
    have hlength := length_le_flatMap_escapeChar t.toList
    have hfuel : t.toList.length < c.rest.length + 1 := by
      rw [hc, List.length_append]
      omega
    have hread := reads_stringBody [] rest hfuel
    rwa [List.reverse_nil, List.nil_append, String.ofList_toList] at hread
  rw [Json.writeString, List.cons_append, List.append_assoc, List.singleton_append]
  exact (reads_take '"').bind (reads_get_bind hbody)

end Conform.Config.Scanner
