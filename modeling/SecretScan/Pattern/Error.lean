import SecretScan.Text.Integer
import SecretScan.Text.Quoted

/-!
# What can be wrong with a written pattern

Each cause is a constructor, and `PatternError.message` holds the wording. A
pattern can also be refused for reasons that are not about its form: a count or a
number that is too large, or flags that exclude each other.
-/

namespace SecretScan

/-- A fault in the form of a pattern. -/
inductive PatternError where
  | danglingEscape
  | incompleteEscape (escape : String)
  | badEscape (escape : String)
  | octalTooLarge (escape : String)
  | missingBrace
  | missingName (what : String)
  | unterminatedName (closer : Char)
  | unknownCharacter (name : String)
  | openGroup
  | groupInSameLookBehind
  | noSuchGroup (index : Nat)
  | badGroupName (name : String)
  | unknownGroupName (name : String)
  | badGroupNumber
  | groupNameTaken (name : String) (now before : Nat)
  | unterminatedSet
  | badRange (first last : String)
  | boundsCrossed
  | nothingToRepeat
  | repeatedRepeat
  | unexpectedEnd
  | unknownExtension (extension : String)
  | unterminatedComment
  | unterminatedGroup
  | tooManyBranches
  | misplacedFlags
  | unbalancedParenthesis
  | localeFlag
  | scopesInFlags
  | unknownFlag
  | flagsUnfinished
  | globalFlagOn
  | globalFlagOff
  | missingFlag
  | missingColon
  | scopeOff
  | flagOnAndOff
  | lookBehindTooFar
  | lookBehindWidth
  | noRepeatsInTemplate (greed : String)
deriving DecidableEq, Repr

/-- The wording of a fault. -/
def PatternError.message : PatternError → String
  | danglingEscape => "bad escape (end of pattern)"
  | incompleteEscape e => "incomplete escape " ++ e
  | badEscape e => "bad escape " ++ e
  | octalTooLarge e => "octal escape value " ++ e ++ " outside of range 0-0o377"
  | missingBrace => "missing \x7b"
  | missingName what => "missing " ++ what
  | unterminatedName closer => "missing " ++ closer.toString ++ ", unterminated name"
  | unknownCharacter name => "undefined character name " ++ Text.quoted name
  | openGroup => "cannot refer to an open group"
  | groupInSameLookBehind =>
    "cannot refer to group defined in the same lookbehind subpattern"
  | noSuchGroup index => "invalid group reference " ++ toString index
  | badGroupName name => "bad character in group name " ++ Text.quoted name
  | unknownGroupName name => "unknown group name " ++ Text.quoted name
  | badGroupNumber => "bad group number"
  | groupNameTaken name now before =>
    "redefinition of group name " ++ Text.quoted name ++ " as group " ++ toString now ++
      "; was group " ++ toString before
  | unterminatedSet => "unterminated character set"
  | badRange first last => "bad character range " ++ first ++ "-" ++ last
  | boundsCrossed => "min repeat greater than max repeat"
  | nothingToRepeat => "nothing to repeat"
  | repeatedRepeat => "multiple repeat"
  | unexpectedEnd => "unexpected end of pattern"
  | unknownExtension extension => "unknown extension ?" ++ extension
  | unterminatedComment => "missing ), unterminated comment"
  | unterminatedGroup => "missing ), unterminated subpattern"
  | tooManyBranches => "conditional backref with more than two branches"
  | misplacedFlags => "global flags not at the start of the expression"
  | unbalancedParenthesis => "unbalanced parenthesis"
  | localeFlag => "bad inline flags: cannot use 'L' flag with a str pattern"
  | scopesInFlags => "bad inline flags: flags 'a', 'u' and 'L' are incompatible"
  | unknownFlag => "unknown flag"
  | flagsUnfinished => "missing -, : or )"
  | globalFlagOn => "bad inline flags: cannot turn on global flag"
  | globalFlagOff => "bad inline flags: cannot turn off global flag"
  | missingFlag => "missing flag"
  | missingColon => "missing :"
  | scopeOff => "bad inline flags: cannot turn off flags 'a', 'u' and 'L'"
  | flagOnAndOff => "bad inline flags: flag turned on and off"
  | lookBehindTooFar => "looks too much behind"
  | lookBehindWidth => "look-behind requires fixed-width pattern"
  | noRepeatsInTemplate greed => "internal: unsupported template operator " ++ greed

/-- Why a written pattern is refused. -/
inductive PatternRefusal where
  /-- The pattern has a fault of form. -/
  | malformed (e : PatternError)
  /-- A repetition count is beyond what a repetition can count. -/
  | countTooLarge
  /-- A number in the pattern has too many digits. -/
  | numberTooLong (digits : Nat)
  /-- The flags ask for both scopes of the character classes. -/
  | bothScopes
deriving DecidableEq, Repr

end SecretScan
