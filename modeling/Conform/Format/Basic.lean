import Conform.Format.Url
import Conform.Format.Uuid
import Conform.Pattern.Basic
import Conform.Schema.Run
import Conform.Standard.Basic

/-!
# Formats of texts and dates

The extension with the formats `email`, `uuid`, `url` and `created-at`.  Lenient schemas trim
addresses and bring UUIDs into their canonical form before they are checked.
-/

namespace Conform.Email

/-- The pattern of an address.  A label begins and ends with a letter or digit, and up to 61
hyphens, letters and digits stand between these. -/
def source : String :=
  "^[a-zA-Z0-9.!#$%&'*+/=?^_`\x7b|\x7d~-]+@" ++
    "[a-zA-Z0-9](?:[a-zA-Z0-9-]\x7b0,61\x7d[a-zA-Z0-9])?" ++
    "(?:\\.[a-zA-Z0-9](?:[a-zA-Z0-9-]\x7b0,61\x7d[a-zA-Z0-9])?)*$"

/-- The pattern as it is read, once for all texts. -/
def pattern : Except PatternError Pattern :=
  Pattern.ofText source

def isAddress (s : String) : Bool :=
  pattern.toOption.any fun p => p.isMatch s

end Conform.Email

namespace Conform.Format

/-- Where fresh values come from in one validation: an identifier and the time, for a visit that
needs one. -/
structure Source where
  uuid : Visit → Uuid
  now : Visit → Instant

/-- A schema over the formats, which depends on where fresh values come from. -/
abbrev Fresh : Type :=
  Source → Schema

/-- Validates an input.  Each validation is given a source of its own, so that the same input can be
given another default the next time. -/
def Fresh.validate (s : Fresh) (source : Source) (input : Option Json) : Visit :=
  (s source).validate input

/-- A text with blanks at an end becomes the text without them. -/
def trimText : Json → Option Json
  | .str s => if Text.trimmed s = s then none else some (.str (Text.trimmed s))
  | _ => none

/-- A text that reads as a UUID, blanks around it apart, becomes its canonical text. -/
def normalizeUuid : Json → Option Json
  | .str s =>
    match Uuid.ofText? (Text.trimmed s) with
    | some u => if u.text = s then none else some (.str u.text)
    | none => none
  | _ => none

/-- A handler that lets texts with a property pass, and all other types of values. -/
def textCheck (format : String) (holds : String → Bool) : Handler :=
  .validate fun _ v =>
    match v.current with
    | .str s => if holds s then none else some (Violation.format format v.current)
    | _ => none

def formats (source : Source) : Extension Schema :=
  { name := "formats"
    formats := [(.string, "email"), (.string, "uuid"), (.string, "url"), (.date, "created-at")]
    builders :=
      [("email", { kind := .string, format := some "email" }),
        ("uuid", { kind := .string, format := some "uuid" }),
        ("url", { kind := .string, format := some "url" }),
        ("uuid-Id",
          { kind := .string
            format := some "uuid"
            configure := some fun _ => .allOrNone
              [.edit (.default (.computed fun v => .str (source.uuid v).text)),
                .edit (.constrain (.obj [("primaryKey", .bool true)]))] }),
        ("created-at",
          { kind := .date
            format := some "created-at"
            configure := some fun _ => .allOrNone
              [.edit (.default (.computed fun v => .str (source.now v).text))] })]
    handlers :=
      [⟨.string, some "email", Standard.coercion trimText⟩,
        ⟨.string, some "email", textCheck "email" Email.isAddress⟩,
        ⟨.string, some "uuid", Standard.coercion normalizeUuid⟩,
        ⟨.string, some "uuid", textCheck "uuid" fun s => (Uuid.ofText? s).isSome⟩,
        ⟨.string, some "url", Standard.coercion trimText⟩,
        ⟨.string, some "url", textCheck "url" Url.isAbsolute⟩] }

end Conform.Format
