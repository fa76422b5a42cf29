/-
This file names what can be wrong with a written regular expression.
-/

namespace ModuleGraph.Pattern

inductive SyntaxError where
  | tooMuchNesting
  | duplicateGroupName
  | unclosedGroup
  | unclosedGroupQuestion
  | unopenedGroup
  | lookAround
  | emptyFlags
  | missingGroupName
  | invalidGroupName
  | unclosedGroupName
  | emptyGroupName
  | unknownFlag
  | repeatedNegation
  | duplicateFlag
  | unclosedFlags
  | danglingNegation
  | missingDecimal
  | invalidDecimal
  | invalidBracedHexDigit
  | unclosedBracedHex
  | emptyBracedHex
  | invalidBracedHex
  | shortHex
  | invalidHexDigit
  | invalidHex
  | missingHex
  | unfinishedEscape
  | backReference
  | unicodeClass
  | unknownEscape
  | missingRepeated
  | missingCounted
  | unclosedCount
  | unclosedLeast
  | unclosedComma
  | unclosedMost
  | invalidCount
  | invalidCountRange
  | unclosedClassItem
  | invalidRangeEnd
  | invalidClassItem
  | unclosedClassDash
  | unclosedClassNegation
  | unclosedClassBracket
  | invalidClassRange
  | unclosedClass
  | nestedClass
  | classIntersection
  | classDifference
  | classSymmetricDifference
  | unclosedWordEdge
  | unknownWordEdge
  | unfinishedWordEdge
  | tooMuchSpace
  deriving DecidableEq, Repr

def SyntaxError.message : SyntaxError → String
  | tooMuchNesting => "pattern has too much nesting"
  | duplicateGroupName => "duplicate capture group name"
  | unclosedGroup => "found open group without closing ')'"
  | unclosedGroupQuestion => "expected closing ')', but got end of pattern"
  | unopenedGroup => "found closing ')' without matching '('"
  | lookAround => "look-around is not supported"
  | emptyFlags => "empty flag directive '(?)' is not allowed"
  | missingGroupName => "expected capture group name, but got end of pattern"
  | invalidGroupName => "invalid group name"
  | unclosedGroupName => "expected end of capture group name, but got end of pattern"
  | emptyGroupName => "empty capture group names are not allowed"
  | unknownFlag => "unrecognized inline flag"
  | repeatedNegation => "inline flag negation cannot be repeated"
  | duplicateFlag => "duplicate inline flag is not allowed"
  | unclosedFlags => "expected ':' or ')' to end inline flags, but got end of pattern"
  | danglingNegation => "inline flags cannot end with negation directive"
  | missingDecimal => "expected decimal number, but found no digits"
  | invalidDecimal => "got invalid decimal number"
  | invalidBracedHexDigit => "expected hexadecimal number in braces, but got non-hex digit"
  | unclosedBracedHex =>
      "expected hexadecimal number, but saw end of pattern before closing brace"
  | emptyBracedHex => "expected hexadecimal number in braces, but got no digits"
  | invalidBracedHex => "got invalid hexadecimal number in braces"
  | shortHex => "expected fixed length hexadecimal number, but saw end of pattern first"
  | invalidHexDigit => "expected fixed length hexadecimal number, but got non-hex digit"
  | invalidHex => "got invalid fixed length hexadecimal number"
  | missingHex => "expected hexadecimal number, but saw end of pattern first"
  | unfinishedEscape =>
      "saw start of escape sequence, but saw end of pattern before it finished"
  | backReference => "backreferences are not supported"
  | unicodeClass => "Unicode character classes are not supported"
  | unknownEscape => "unrecognized escape sequence"
  | missingRepeated => "uncounted repetition operator must be applied to a sub-expression"
  | missingCounted => "counted repetition operator must be applied to a sub-expression"
  | unclosedCount => "found unclosed counted repetition operator"
  | unclosedLeast => "found incomplete and unclosed counted repetition operator"
  | unclosedComma => "found counted repetition operator with a comma that is unclosed"
  | unclosedMost => "found counted repetition with min and max that is unclosed"
  | invalidCount => "expected closing brace for counted repetition, but got something else"
  | invalidCountRange => "found counted repetition with a min bigger than its max"
  | unclosedClassItem => "non-empty character class has no closing bracket"
  | invalidRangeEnd => "character class ranges must start and end with a single character"
  | invalidClassItem => "invalid escape sequence in character class"
  | unclosedClassDash => "non-empty character class has no closing bracket after dash"
  | unclosedClassNegation => "negated character class has no closing bracket"
  | unclosedClassBracket =>
      "character class begins with literal ']' but has no closing bracket"
  | invalidClassRange => "invalid range in character class"
  | unclosedClass => "found unclosed character class"
  | nestedClass => "nested character classes are not supported"
  | classIntersection => "character class intersection is not supported"
  | classDifference => "character class difference is not supported"
  | classSymmetricDifference => "character class symmetric difference is not supported"
  | unclosedWordEdge =>
      "special word boundary assertion is unclosed or has an invalid character"
  | unknownWordEdge => "special word boundary assertion is unrecognized"
  | unfinishedWordEdge => "found start of special word boundary or repetition without an end"
  | tooMuchSpace => "compiled regex exceeded size limit"

end ModuleGraph.Pattern
