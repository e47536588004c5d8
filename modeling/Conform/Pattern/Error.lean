/-!
# Why a text is not a pattern
-/

namespace Conform

/-- Why a text is not a pattern. -/
inductive PatternError where
  | unclosedGroup
  | unopenedGroup
  | unclosedClass
  | unclosedCount
  | nothingToRepeat
  | badCount
  | reversedCount
  | reversedRange
  | badRangeEnd
  | badClassItem
  | badEscape
  | badCharacterCode
  | badFlag
  | badGroupName
  | lookAround
  | unknownProperty
  | notText
  | tooDeep
  | tooLarge
  deriving DecidableEq

def PatternError.message : PatternError → String
  | .unclosedGroup => "unclosed group"
  | .unopenedGroup => "unopened group"
  | .unclosedClass => "unclosed character class"
  | .unclosedCount => "unclosed counted repetition"
  | .nothingToRepeat => "repetition operator missing expression"
  | .badCount => "repetition quantifier expects a valid decimal"
  | .reversedCount => "invalid repetition count range"
  | .reversedRange => "invalid character class range"
  | .badRangeEnd => "a range of a character class has to begin and end with a character"
  | .badClassItem => "an anchor cannot stand in a character class"
  | .badEscape => "unrecognized escape sequence"
  | .badCharacterCode => "a character code is malformed"
  | .badFlag => "the flags are malformed"
  | .badGroupName => "a group name is malformed"
  | .lookAround => "looking around is not supported"
  | .unknownProperty => "character property not found"
  | .notText => "the pattern can match what is not text"
  | .tooDeep => "the pattern nests too deep"
  | .tooLarge => "the pattern is too large"

end Conform
