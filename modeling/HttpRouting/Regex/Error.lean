import HttpRouting.Text.Integer
import HttpRouting.Text.Quoted

/-!
# Errors in regular expressions

A fault is the cause, a position says where it was noticed, and `message`
words both.  Lines and columns are given only for expressions of several
lines.
-/

namespace HttpRouting.Regex

inductive Fault where
  | danglingBackslash
  | badEscape (written : List Char)
  | incompleteEscape (written : List Char)
  | octalTooLarge (written : List Char)
  | missingBrace
  | missingName (what : String)
  | unterminatedName (close : Char)
  | unknownCharacter (name : List Char)
  | openGroup
  | groupOfSameLookBehind
  | noSuchGroup (index : Nat)
  | badGroupNumber
  | badGroupName (name : List Char)
  | unknownGroupName (name : List Char)
  | groupRedefined (name : List Char) (index earlier : Nat)
  | unterminatedClass
  | badRange (low high : List Char)
  | bounds
  | nothingToRepeat
  | repeatedTwice
  | unexpectedEnd
  | unknownExtension (written : List Char)
  | unterminatedComment
  | unterminatedGroup
  | unbalanced
  | threeBranches
  | lateFlags
  | localeFlag
  | alphabetFlags
  | unknownFlag
  | missingFlag
  | missingFlagEnd
  | missingColon
  | globalFlagOn
  | globalFlagOff
  | alphabetFlagOff
  | flagOnAndOff
  | lookBehindWidth
  | templateRepeat (kind : String)
deriving DecidableEq, Repr

def Fault.message : Fault → String
  | .danglingBackslash => "bad escape (end of pattern)"
  | .badEscape written => "bad escape " ++ .ofList written
  | .incompleteEscape written => "incomplete escape " ++ .ofList written
  | .octalTooLarge written =>
    "octal escape value " ++ .ofList written ++ " outside of range 0-0o377"
  | .missingBrace => "missing \x7b"
  | .missingName what => "missing " ++ what
  | .unterminatedName close => "missing " ++ .singleton close ++ ", unterminated name"
  | .unknownCharacter name => "undefined character name " ++ .ofList (Text.quoteChars name)
  | .openGroup => "cannot refer to an open group"
  | .groupOfSameLookBehind => "cannot refer to group defined in the same lookbehind subpattern"
  | .noSuchGroup index => "invalid group reference " ++ toString index
  | .badGroupNumber => "bad group number"
  | .badGroupName name => "bad character in group name " ++ .ofList (Text.quoteChars name)
  | .unknownGroupName name => "unknown group name " ++ .ofList (Text.quoteChars name)
  | .groupRedefined name index earlier =>
    "redefinition of group name " ++ .ofList (Text.quoteChars name) ++ " as group " ++
      toString index ++ "; was group " ++ toString earlier
  | .unterminatedClass => "unterminated character set"
  | .badRange low high => "bad character range " ++ .ofList low ++ "-" ++ .ofList high
  | .bounds => "min repeat greater than max repeat"
  | .nothingToRepeat => "nothing to repeat"
  | .repeatedTwice => "multiple repeat"
  | .unexpectedEnd => "unexpected end of pattern"
  | .unknownExtension written => "unknown extension ?" ++ .ofList written
  | .unterminatedComment => "missing ), unterminated comment"
  | .unterminatedGroup => "missing ), unterminated subpattern"
  | .unbalanced => "unbalanced parenthesis"
  | .threeBranches => "conditional backref with more than two branches"
  | .lateFlags => "global flags not at the start of the expression"
  | .localeFlag => "bad inline flags: cannot use 'L' flag with a str pattern"
  | .alphabetFlags => "bad inline flags: flags 'a', 'u' and 'L' are incompatible"
  | .unknownFlag => "unknown flag"
  | .missingFlag => "missing flag"
  | .missingFlagEnd => "missing -, : or )"
  | .missingColon => "missing :"
  | .globalFlagOn => "bad inline flags: cannot turn on global flag"
  | .globalFlagOff => "bad inline flags: cannot turn off global flag"
  | .alphabetFlagOff => "bad inline flags: cannot turn off flags 'a', 'u' and 'L'"
  | .flagOnAndOff => "bad inline flags: flag turned on and off"
  | .lookBehindWidth => "look-behind requires fixed-width pattern"
  | .templateRepeat kind => "internal: unsupported template operator " ++ kind

structure Position where
  index : Nat
  lineColumn : Option (Nat × Nat)
deriving DecidableEq, Repr

namespace Position

def ofIndex (text : List Char) (index : Nat) : Position where
  index := index
  lineColumn :=
    if text.contains '\n' then
      let before := text.take index
      some (before.count '\n' + 1, (before.reverse.takeWhile (· != '\n')).length + 1)
    else none

def message (p : Position) : String :=
  " at position " ++ toString p.index ++
    match p.lineColumn with
    | none => ""
    | some (line, column) => " (line " ++ toString line ++ ", column " ++ toString column ++ ")"

end Position

inductive Error where
  | invalid (fault : Fault) (position : Option Position)
  | boundTooLarge
  | boundTooLong (digits : Nat)
  | codeTooLarge
  | lookBehindTooFar
  | crossedGroup
  | alphabetConflict
  | tooDeep
deriving DecidableEq, Repr

def Error.message : Error → String
  | .invalid fault position => fault.message ++ (position.map Position.message).getD ""
  | .boundTooLarge => "the repetition number is too large"
  | .boundTooLong digits => Text.tooManyDigits digits
  | .codeTooLarge => "Python int too large to convert to C int"
  | .lookBehindTooFar => "invalid SRE code"
  | .crossedGroup =>
    "The span of capturing group is wrong, please report a bug for the re module."
  | .alphabetConflict => "ASCII and UNICODE flags are incompatible"
  | .tooDeep => "maximum recursion depth exceeded"

end HttpRouting.Regex
