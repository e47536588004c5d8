import Conform.Json.Writer
import Conform.Proofs.Path
import Conform.Schema.Visit

/-!
# Text written directly

Paths, issues and visits write their JSON text piece by piece, without building a value first.  The
pieces together are the text of the JSON form, character by character.
-/

namespace Conform

namespace Json

/-- The items of an array are written with commas between them. -/
theorem writeItems_eq_intercalate (items : List Json) :
    writeItems items = List.intercalate [','] (items.map write) := by
  induction items with
  | nil => rfl
  | cons v items ih =>
      -- whether a comma follows depends on the next item
      cases items with
      | nil => simp [writeItems]
      | cons w rest => simp [writeItems, ih]

/-- An array is written directly where its items are. -/
theorem write_arr_map {α : Type} {f : α → Json} {g : α → List Char} {xs : List α}
    (h : ∀ x ∈ xs, (f x).write = g x) :
    (arr (xs.map f)).write = '[' :: (List.intercalate [','] (xs.map g) ++ [']']) := by
  have htexts : (xs.map f).map write = xs.map g := by
    rw [List.map_map]
    exact List.map_congr_left h
  rw [write, writeItems_eq_intercalate, htexts]

/-- A field is written after a comma where others stand before it. -/
theorem writeFields_concat {fs : Fields Json} (hfs : fs ≠ []) (name : String) (v : Json) :
    writeFields (fs ++ [(name, v)]) =
      writeFields fs ++ ',' :: (writeString name ++ ':' :: v.write) := by
  induction fs with
  | nil => exact absurd rfl hfs
  | cons f fs ih =>
      cases fs with
      | nil => simp [writeFields]
      | cons f' fs =>
          have hrest := ih (by simp)
          rw [List.cons_append] at hrest
          simp [writeFields, hrest]

theorem writeFields_optionalField {fs : Fields Json} (hfs : fs ≠ []) (name : String)
    (v : Option Json) :
    writeFields (fs ++ Issue.optionalField name v) =
      writeFields fs ++ Issue.encodeOptional name v := by
  cases v with
  | none => simp [Issue.optionalField, Issue.encodeOptional]
  | some v => exact writeFields_concat hfs name v

end Json

theorem Segment.write_toJson {s : Segment} (h : s.Fits) : s.toJson.write = s.encode := by
  cases s with
  | key name => rfl
  | index i =>
      rw [toJson_index h, Json.write, Number.toList_text_int]
      simp [encode]

theorem Path.write_toJson {p : Path} (h : p.Fits) : p.toJson.write = p.encode :=
  Json.write_arr_map fun s hs => s.write_toJson (h s hs)

/-- The name of a kind, with its words parted by low lines, is its code. -/
theorem IssueKind.snakeCase_name (k : IssueKind) : Text.snakeCase k.name = k.code := by
  cases k <;> rfl

/-- The fields of an issue stand in one order in both texts, and the two that can be missing are
missing in both. -/
theorem Issue.write_toJson {i : Issue} (h : i.path.Fits) : i.toJson.write = i.encode := by
  rw [toJson, Json.write, Json.writeFields_optionalField (by simp),
    Json.writeFields_optionalField (by simp), encode, i.kind.snakeCase_name,
    ← Path.write_toJson h]
  simp [Json.writeFields, Json.write]

theorem Visit.write_toJson {v : Visit} (h : ∀ i ∈ v.issues, i.path.Fits) :
    v.toJson.write = v.encode := by
  have hissues := Json.write_arr_map fun i hi => Issue.write_toJson (h i hi)
  rw [toJson, Json.write, Json.writeFields_concat (by simp),
    Json.writeFields_optionalField (by simp), hissues, encode]
  cases v.conforms <;> simp [Json.writeFields, Json.write]

/-- The text that a path, an issue or a finished validation writes directly is the text of its JSON
form, where indices are unsigned 64-bit numbers. -/
theorem encode_eq_text (p : Path) (i : Issue) (v : Visit) :
    (p.Fits → String.ofList p.encode = p.toJson.text) ∧
      (i.path.Fits → String.ofList i.encode = i.toJson.text) ∧
      ((∀ i ∈ v.issues, i.path.Fits) → String.ofList v.encode = v.toJson.text) := by
  refine ⟨fun h => ?_, fun h => ?_, fun h => ?_⟩
  · rw [Json.text, Path.write_toJson h]
  · rw [Json.text, Issue.write_toJson h]
  · rw [Json.text, Visit.write_toJson h]

/-- One issue, at an item of an array, in a validation without a value. -/
theorem encode_eq_text_item :
    let p : Path := [.key "items", .index 2]
    let i : Issue :=
      { kind := .typeMismatch, message := "must be of type `string`", path := p,
        actual := some (.bool true), expected := none }
    let v : Visit := { value := none, root := .null, path := [], issues := [i] }
    p.Fits ∧ String.ofList p.encode = p.toJson.text ∧
      String.ofList i.encode = i.toJson.text ∧ String.ofList v.encode = v.toJson.text := by
  intro p i v
  have hp : p.Fits := by decide
  obtain ⟨hpath, hissue, hvisit⟩ := encode_eq_text p i v
  exact ⟨hp, hpath hp, hissue hp, hvisit (by simpa [v] using hp)⟩

end Conform
