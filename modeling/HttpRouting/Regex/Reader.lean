import HttpRouting.Regex.Escape
import HttpRouting.Text.Identifier

/-!
# Reading regular expressions

A recursive-descent reader of alternatives, sequences, repetitions, classes
and groups.  Each call consumes a token or descends into a group that one
opened, so a fuel of three steps a character is never used up.  After reading,
`compile` checks what only the whole expression decides: the parentheses, the
references of conditionals, and the widths of look-behinds.
-/

namespace HttpRouting.Regex

/-- A member of a sequence while it is read; a plain group dissolves into its members at the end. -/
inductive Part where
  | one (node : Node)
  | plain (nodes : List Node)

namespace Part

def nodes : Part → List Node
  | one node => [node]
  | plain nodes => nodes

def node : Part → Node
  | one node => node
  | plain nodes => Node.ofList nodes

end Part

/-! ## Alternatives -/

def isShareable : Node → Bool
  | .chars _ _ | .any | .anchor _ | .backreference _ => true
  | _ => false

def sharedHead? : List (List Node) → Option Node
  | (head :: _) :: rest =>
    if isShareable head && rest.all (fun branch => branch.head? == some head) then some head else none
  | _ => none

def factor : Nat → List (List Node) → List Node × List (List Node)
  | 0, branches => ([], branches)
  | fuel + 1, branches =>
    match sharedHead? branches with
    | none => ([], branches)
    | some head =>
      let (shared, rest) := factor fuel (branches.map List.tail)
      (head :: shared, rest)

def plainClass? : List Node → Option (List ClassItem)
  | [.chars false items] => some items
  | _ => none

def mergedClass? (branches : List (List Node)) : Option (List ClassItem) :=
  (branches.mapM plainClass?).map fun classes => classes.flatten.eraseDups

def joinBranches (branches : List (List Node)) : List Node :=
  match branches with
  | [branch] => branch
  | _ =>
    let (shared, rest) := factor (branches.headD []).length branches
    match mergedClass? rest with
    | some items => shared ++ [.chars false items]
    | none => shared ++ [.ofAlternatives rest]

/-! ## Classes -/

namespace Reader

def classMember : Token → Reader ClassItem
  | ['\\', c] => escapeInClass c
  | c :: _ => return .code c.toNat
  | [] => return .code 0

def classRange (low high : ClassItem) (lowToken highToken : Token) : Reader ClassItem := do
  match low, high with
  | .code m, .code n =>
    if n < m then fail (.badRange lowToken highToken) (lowToken.length + 1 + highToken.length)
    else return .range m n
  | _, _ => fail (.badRange lowToken highToken) (lowToken.length + 1 + highToken.length)

def classItems (start : Nat) : Nat → List ClassItem → Reader (List ClassItem)
  | 0, _ => throw .tooDeep
  | fuel + 1, items => do
    let unterminated {α : Type} : Reader α := do fail .unterminatedClass ((← index) - start)
    match ← next with
    | none => unterminated
    | some token =>
      if token = [']'] && !items.isEmpty then return items
      else
        let low ← classMember token
        if ← accept '-' then
          match ← next with
          | none => unterminated
          | some [']'] => return items ++ [low, .code '-'.toNat]
          | some highToken =>
            let high ← classMember highToken
            let range ← classRange low high token highToken
            classItems start fuel (items ++ [range])
        else classItems start fuel (items ++ [low])

def characterClass (start : Nat) : Reader Node := do
  let negated ← accept '^'
  let items ← classItems start ((← remaining) + 1) []
  return .chars negated items.eraseDups

/-! ## Repetitions -/

/-- The value of a bound, which must be less than every unbounded count. -/
def bound (digits : List Char) : Reader Nat := do
  if Text.maxDigits < digits.length then throw (.boundTooLong digits.length)
  let count := numeral 10 digits
  if Node.Width.limit ≤ count then throw .boundTooLarge
  return count

def bound? (digits : List Char) : Reader (Option Nat) := do
  if digits.isEmpty then return none else return some (← bound digits)

def boundsOf (start : Nat) (low high : List Char) : Reader (Option (Nat × Option Nat)) := do
  let least := (← bound? low).getD 0
  let most ← bound? high
  if most.any (· < least) then fail .bounds ((← index) - start)
  else return some (least, most)

def highDigits (low : List Char) : Reader (List Char) := do
  if ← accept ',' then takeWhile Char.isDigit (← remaining) else return low

/-- The bounds up to a closing brace; what is written otherwise is given back. -/
def bracedBounds? : Reader (Option (Nat × Option Nat)) := do
  let before ← get
  let low ← takeWhile Char.isDigit (← remaining)
  let high ← highDigits low
  if ← accept '}' then boundsOf before.index low high
  else
    set before
    return none

def bounds? (mark : Char) : Reader (Option (Nat × Option Nat)) := do
  if mark == '?' then return some (0, some 1)
  if mark == '*' then return some (0, none)
  if mark == '+' then return some (1, none)
  if (← peek) = some ['}'] then return none
  bracedBounds?

def isLoop : Node → Bool
  | .loop .. => true
  | _ => false

def isAnchor : Node → Bool
  | .anchor _ => true
  | _ => false

def greed : Reader Greed := do
  if ← accept '?' then return .lazy
  if ← accept '+' then return .possessive
  return .greedy

/-- Repeats the last part, given latest first; `here` is the index after the mark. -/
def repeatLast (here least : Nat) (most : Option Nat) : List Part → Reader (List Part)
  | [] => do fail .nothingToRepeat ((← index) - here + 1)
  | part :: rest => do
    if let .one node := part then
      if isAnchor node then fail .nothingToRepeat ((← index) - here + 1)
      if isLoop node then fail .repeatedTwice ((← index) - here + 1)
    return .one (.loop (← greed) least most part.node) :: rest

/-! ## Flags -/

def isFlagLetter (c : Char) : Bool := c == 'L' || (Flags.ofLetter? c).isSome

def notFlag (missing : Fault) (token : Token) : Fault :=
  match token with
  | [c] => if Text.isLetter c then .unknownFlag else missing
  | _ => missing

def flagLetters (ends : List Char) (missing : Fault) (check : Char → Flags → Reader Unit) :
    Nat → Char → Flags → Reader (Char × Flags)
  | 0, _, _ => throw .tooDeep
  | fuel + 1, letter, flags => do
    check letter flags
    let flags := flags.union ((Flags.ofLetter? letter).getD {})
    match ← next with
    | none => fail missing 0
    | some [c] =>
      if ends.contains c then return (c, flags)
      if isFlagLetter c then flagLetters ends missing check fuel c flags
      else fail (notFlag missing [c]) 1
    | some token => fail missing token.length

inductive FlagChange where
  | overall
  | local (on off : Flags)

def checkTurnedOn (letter : Char) (flags : Flags) : Reader Unit := do
  if letter == 'L' then fail .localeFlag 0
  if letter == 'a' && flags.unicode || letter == 'u' && flags.ascii then fail .alphabetFlags 0

def checkTurnedOff (letter : Char) (_ : Flags) : Reader Unit := do
  if letter == 'a' || letter == 'u' || letter == 'L' then fail .alphabetFlagOff 0

def turnOff (on : Flags) : Reader FlagChange := do
  match ← next with
  | none => fail .missingFlag 0
  | some token =>
    match token.filter isFlagLetter, token with
    | [letter], [_] =>
      let (_, off) ← flagLetters [':'] .missingColon checkTurnedOff ((← remaining) + 1) letter {}
      if off.template then fail .globalFlagOff 1
      if on.inter off != {} then fail .flagOnAndOff 1
      return .local on off
    | _, _ => fail (notFlag .missingFlag token) token.length

def flagChange (letter : Char) : Reader FlagChange := do
  if letter == '-' then turnOff {}
  else
    let (finish, on) ←
      flagLetters [')', '-', ':'] .missingFlagEnd checkTurnedOn ((← remaining) + 1) letter {}
    if finish == ')' then
      modify fun s => { s with flags := s.flags.union on }
      return .overall
    else if on.template then fail .globalFlagOn 1
    else if finish == '-' then turnOff on
    else return .local on {}

/-! ## Groups -/

def skipComment (start : Nat) : Nat → Reader Unit
  | 0 => throw .tooDeep
  | fuel + 1 => do
    match ← peek with
    | none => fail .unterminatedComment ((← index) - start)
    | some token =>
      let _ ← next
      if token = [')'] then return () else skipComment start fuel

def skipLine : Nat → Reader Unit
  | 0 => throw .tooDeep
  | fuel + 1 => do
    match ← next with
    | none => return ()
    | some token => if token = ['\n'] then return () else skipLine fuel

def checkGroupName (name : List Char) : Reader Unit := do
  if !Text.isIdentifier name then fail (.badGroupName name) (name.length + 1)

def openGroup (name : Option (List Char)) : Reader Nat := do
  let s ← get
  let group := s.groupCount
  if let some name := name then
    if let some earlier := s.names.lookup name then
      fail (.groupRedefined name group earlier) (name.length + 1)
    set { s with widths := s.widths ++ [none], names := s.names ++ [(name, group)] }
  else set { s with widths := s.widths ++ [none] }
  return group

def closeGroup (group : Nat) (body : Node) : Reader Unit :=
  modify fun s => { s with widths := s.widths.set group (some (body.width s.widths)) }

def closeParenthesis (start : Nat) : Reader Unit := do
  if !(← accept ')') then fail .unterminatedGroup ((← index) - start)

def namedBackreference : Reader Node := do
  let name ← nameUntil ')' "group name"
  checkGroupName name
  let s ← get
  match s.names.lookup name with
  | none => fail (.unknownGroupName name) (name.length + 1)
  | some group =>
    if !s.isClosed group then fail .openGroup (name.length + 1)
    checkLookBehind group
    return .backreference group

def conditionGroup : Reader Nat := do
  let name ← nameUntil ')' "group name"
  let back := name.length + 1
  if Text.isIdentifier name then
    match (← get).names.lookup name with
    | none => fail (.unknownGroupName name) back
    | some group =>
      checkLookBehind group
      return group
  else
    match Text.readInteger 10 name with
    | .ok (.ofNat group) =>
      if group == 0 then fail .badGroupNumber back
      if 0x3fffffff ≤ group then fail (.noSuchGroup group) back
      let place := (← index) - back
      modify fun s =>
        if (s.conditions.lookup group).isSome then s
        else { s with conditions := s.conditions ++ [(group, place)] }
      checkLookBehind group
      return group
    | _ => fail (.badGroupName name) back

inductive Opening where
  | capture (name : Option (List Char))
  | flagged (on off : Flags)
  | atomic
  | look (negated : Bool)
  | lookBehind (negated : Bool)
  | condition (group : Nat)
  | done (part : Part)
  | comment
  | overallFlags

def openingAfterP : Reader Opening := do
  if ← accept '<' then
    let name ← nameUntil '>' "group name"
    checkGroupName name
    return .capture (some name)
  else if ← accept '=' then return .done (.one (← namedBackreference))
  else
    match ← next with
    | none => fail .unexpectedEnd 0
    | some token => fail (.unknownExtension ('P' :: token)) (token.length + 2)

def openingAfterLess : Reader Opening := do
  match ← next with
  | none => fail .unexpectedEnd 0
  | some token =>
    if token = ['='] then return .lookBehind false
    else if token = ['!'] then return .lookBehind true
    else fail (.unknownExtension ('<' :: token)) (token.length + 2)

def opening (start : Nat) : Reader Opening := do
  if !(← accept '?') then return .capture none
  match ← next with
  | none => fail .unexpectedEnd 0
  | some token =>
    match token with
    | ['P'] => openingAfterP
    | [':'] => return .flagged {} {}
    | ['#'] =>
      skipComment start ((← remaining) + 1)
      return .comment
    | ['='] => return .look false
    | ['!'] => return .look true
    | ['<'] => openingAfterLess
    | ['('] => return .condition (← conditionGroup)
    | ['>'] => return .atomic
    | [c] =>
      if c == '-' || isFlagLetter c then
        match ← flagChange c with
        | .overall => return .overallFlags
        | .local on off => return .flagged on off
      else fail (.unknownExtension token) 2
    | _ => fail (.unknownExtension token) (token.length + 1)

/-! ## Sequences and alternatives -/

def isVerboseBlank (token : Token) : Bool :=
  match token with
  | [c] => " \t\n\r\x0b\x0c".toList.contains c
  | _ => false

inductive Item where
  | escape (c : Char)
  | characterClass
  | parenthesis
  | repetition (mark : Char)
  | node (n : Node)
  | nothing

def Item.ofChar (c : Char) : Item :=
  match c with
  | '[' => .characterClass
  | '(' => .parenthesis
  | '.' => .node .any
  | '^' => .node (.anchor .start)
  | '$' => .node (.anchor .finish)
  | _ =>
    if c == '?' || c == '*' || c == '+' || c == '{' then .repetition c
    else .node (.literal c.toNat)

def Item.ofToken : Token → Item
  | [c] => .ofChar c
  | ['\\', c] => .escape c
  | _ => .nothing

mutual

/-- Alternatives up to a closing parenthesis or the end; `outermost` when no group is open. -/
def alternatives (fuel : Nat) (verbose outermost : Bool) : Reader (List Node) :=
  match fuel with
  | 0 => throw .tooDeep
  | fuel + 1 => do
    let first ← sequence fuel verbose outermost []
    return joinBranches (← moreBranches fuel verbose outermost [first])

def moreBranches (fuel : Nat) (verbose outermost : Bool) (branches : List (List Node)) :
    Reader (List (List Node)) :=
  match fuel with
  | 0 => throw .tooDeep
  | fuel + 1 => do
    if ← accept '|' then
      let s ← get
      let verbose := if outermost then s.flags.verbose else verbose
      let branch ← sequence fuel verbose false []
      moreBranches fuel verbose outermost (branches ++ [branch])
    else return branches

/-- A sequence, given the parts read so far, latest first; `first` when global flags may still come. -/
def sequence (fuel : Nat) (verbose first : Bool) (parts : List Part) : Reader (List Node) :=
  match fuel with
  | 0 => throw .tooDeep
  | fuel + 1 => do
    let finish := (parts.reverse.map Part.nodes).flatten
    let add (node : Node) : Reader (List Node) :=
      sequence fuel verbose first (.one node :: parts)
    match ← peek with
    | none => return finish
    | some token =>
      if token = ['|'] || token = [')'] then return finish
      let _ ← next
      if verbose && isVerboseBlank token then sequence fuel verbose first parts
      else if verbose && token = ['#'] then
        skipLine ((← remaining) + 1)
        sequence fuel verbose first parts
      else match Item.ofToken token with
        | .escape c => add (← escapeOutside c)
        | .characterClass => add (← characterClass ((← index) - 1))
        | .parenthesis =>
          let start := (← index) - 1
          match ← opening start with
          | .comment => sequence fuel verbose first parts
          | .overallFlags =>
            if !first || !parts.isEmpty then fail .lateFlags ((← index) - start)
            let s ← get
            sequence fuel s.flags.verbose first parts
          | .done part => sequence fuel verbose first (part :: parts)
          | other =>
            let part ← group fuel verbose start other
            sequence fuel verbose first (part :: parts)
        | .repetition mark =>
          let here ← index
          match ← bounds? mark with
          | none => add (.literal mark.toNat)
          | some (least, most) => sequence fuel verbose first (← repeatLast here least most parts)
        | .node n => add n
        | .nothing => sequence fuel verbose first parts

def group (fuel : Nat) (verbose : Bool) (start : Nat) (opened : Opening) : Reader Part :=
  match fuel with
  | 0 => throw .tooDeep
  | fuel + 1 => do
    match opened with
    | .capture name =>
      let index ← openGroup name
      let body := Node.ofList (← alternatives fuel verbose false)
      closeParenthesis start
      closeGroup index body
      return .one (.group index body)
    | .flagged on off =>
      let body ← alternatives fuel ((verbose || on.verbose) && !off.verbose) false
      closeParenthesis start
      if on = {} && off = {} then return .plain body
      else return .one (.flagged on off (.ofList body))
    | .atomic =>
      let body := Node.ofList (← alternatives fuel verbose false)
      closeParenthesis start
      return .one (.atomic body)
    | .look negated =>
      let body := Node.ofList (← alternatives fuel verbose false)
      closeParenthesis start
      return .one (.look .ahead negated body)
    | .lookBehind negated =>
      let outside := (← get).outsideLookBehind
      if outside.isNone then
        modify fun s => { s with outsideLookBehind := some s.groupCount }
      let body := Node.ofList (← alternatives fuel verbose false)
      if outside.isNone then modify fun s => { s with outsideLookBehind := none }
      closeParenthesis start
      let width := body.width (← get).widths
      return .one (.look (.behind width.least width.greatest) negated body)
    | .condition index =>
      let present := Node.ofList (← sequence fuel verbose false [])
      let absent ← if ← accept '|' then
          let absent := Node.ofList (← sequence fuel verbose false [])
          if (← peek) = some ['|'] then fail .threeBranches 0
          pure absent
        else pure .empty
      closeParenthesis start
      return .one (.conditional index present absent)
    | .done part => return part
    | .comment => return .plain []
    | .overallFlags => return .plain []

end

end Reader

end HttpRouting.Regex
