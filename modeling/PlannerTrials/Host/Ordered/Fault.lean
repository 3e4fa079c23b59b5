/-!
# Faults of ordered patterns

Each fault is a cause for which a text is no ordered pattern, and has one wording.
-/

namespace PlannerTrials.Host

namespace Ordered

/-- Why a text is no ordered pattern. -/
inductive Fault where
  /-- A text ends after a backslash, or after the sign for controls. -/
  | bareBackslash
  | bareControl
  | unknownEscape
  | countOrder
  | countTooBig
  | openSet
  | escapeInSet
  | rangeOrder
  | nothingToRepeat
  | unknownSign
  | classOutside
  | collation
  | openGroup
  | noSuchGroup
  | openComment
  | tooDeep
  | closedGroup
  | openCondition
  | variableWidth
  | relativeZero
  | tooManyBranches
  | noAssertion
  | noDigit
  | unknownClass
  | codeTooBig
  | foreignEscape
  | noteTooBig
  | openNote
  | unknownNamedSign
  | openName
  | nameTaken
  | nameStartsWithDigit
  | malformedProperty
  | unknownProperty
  | nameTooLong
  | invalidRange
  | octalTooBig
  | tooManyDefinitions
  | noOctalBrace
  | badCall
  | openCall
  | badVerb
  | numberTooBig
  | noName
  | badOctal
  | numberNamedTwice
  | noMark
  | badHex
  | badControl
  | badNamedReference
  | lineInSet
  | surrogate
  | verbNameTooLong
  | noDigits
  | badVersion
  | openQuotedNote
  | noteDelimiter
  | noUnicode
  | lateHyphen
  | unknownAssertion
  | noAtomicAssertion
  | keepInLook
  deriving DecidableEq, Repr

namespace Fault

/-- The wording of a fault. -/
def message : Fault → String
  | bareBackslash => "\\ at end of pattern"
  | bareControl => "\\c at end of pattern"
  | unknownEscape => "unrecognized character follows \\"
  | countOrder => "numbers out of order in \x7b\x7d quantifier"
  | countTooBig => "number too big in \x7b\x7d quantifier"
  | openSet => "missing terminating ] for character class"
  | escapeInSet => "escape sequence is invalid in character class"
  | rangeOrder => "range out of order in character class"
  | nothingToRepeat => "quantifier does not follow a repeatable item"
  | unknownSign => "unrecognized character after (? or (?-"
  | classOutside => "POSIX named classes are supported only within a class"
  | collation => "POSIX collating elements are not supported"
  | openGroup => "missing closing parenthesis"
  | noSuchGroup => "reference to non-existent subpattern"
  | openComment => "missing ) after (?# comment"
  | tooDeep => "parentheses are too deeply nested"
  | closedGroup => "unmatched closing parenthesis"
  | openCondition => "missing closing parenthesis for condition"
  | variableWidth => "lookbehind assertion is not fixed length"
  | relativeZero => "a relative value of zero is not allowed"
  | tooManyBranches => "conditional subpattern contains more than two branches"
  | noAssertion => "assertion expected after (?( or (?(?C)"
  | noDigit => "digit expected after (?+ or (?-"
  | unknownClass => "unknown POSIX class name"
  | codeTooBig => "character code point value in \\x\x7b\x7d or \\o\x7b\x7d is too large"
  | foreignEscape => "PCRE2 does not support \\F, \\L, \\l, \\N\x7bname\x7d, \\U, or \\u"
  | noteTooBig => "number after (?C is greater than 255"
  | openNote => "closing parenthesis for (?C expected"
  | unknownNamedSign => "unrecognized character after (?P"
  | openName => "syntax error in subpattern name (missing terminator?)"
  | nameTaken => "two named subpatterns have the same name (PCRE2_DUPNAMES not set)"
  | nameStartsWithDigit => "subpattern name must start with a non-digit"
  | malformedProperty => "malformed \\P or \\p sequence"
  | unknownProperty => "unknown property after \\P or \\p"
  | nameTooLong => "subpattern name is too long (maximum 32 code units)"
  | invalidRange => "invalid range in character class"
  | octalTooBig => "octal value is greater than \\377 in 8-bit non-UTF-8 mode"
  | tooManyDefinitions => "DEFINE subpattern contains more than one branch"
  | noOctalBrace => "missing opening brace after \\o"
  | badCall =>
    "\\g is not followed by a braced, angle-bracketed, or quoted name/number or by a plain number"
  | openCall => "(?R (recursive pattern call) must be followed by a closing parenthesis"
  | badVerb => "(*VERB) not recognized or malformed"
  | numberTooBig => "subpattern number is too big"
  | noName => "subpattern name expected"
  | badOctal => "non-octal character in \\o\x7b\x7d (closing brace missing?)"
  | numberNamedTwice => "different names for subpatterns of the same number are not allowed"
  | noMark => "(*MARK) must have an argument"
  | badHex => "non-hex character in \\x\x7b\x7d (closing brace missing?)"
  | badControl => "\\c must be followed by a printable ASCII character"
  | badNamedReference => "\\k is not followed by a braced, angle-bracketed, or quoted name"
  | lineInSet => "\\N is not supported in a class"
  | surrogate => "disallowed Unicode code point (>= 0xd800 && <= 0xdfff)"
  | verbNameTooLong => "name is too long in (*MARK), (*PRUNE), (*SKIP), or (*THEN)"
  | noDigits => "digits missing in \\x\x7b\x7d or \\o\x7b\x7d or \\N\x7bU+\x7d"
  | badVersion => "syntax error or number too big in (?(VERSION condition"
  | openQuotedNote => "missing terminating delimiter for callout with string argument"
  | noteDelimiter => "unrecognized string delimiter follows (?C"
  | noUnicode => "\\N\x7bU+dddd\x7d is supported only in Unicode (UTF) mode"
  | lateHyphen => "invalid hyphen in option setting"
  | unknownAssertion => "(*alpha_assertion) not recognized"
  | noAtomicAssertion => "atomic assertion expected after (?( or (?(?C)"
  | keepInLook => "\\K is not allowed in lookarounds (but see PCRE2_EXTRA_ALLOW_LOOKAROUND_BSK)"

end Fault

end Ordered

end PlannerTrials.Host
