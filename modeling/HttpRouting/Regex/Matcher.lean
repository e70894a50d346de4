import HttpRouting.Regex.Cursor

/-!
# Matching

A matcher takes a cursor and a continuation, and returns the first result that
the continuation accepts, where the ways to match are tried in order of
preference: the earlier alternative, one more round of a greedy repetition, one
round less of a lazy one.  Atomic bodies, look-around and the rounds of
possessive repetitions are matched on their own and not tried again.
-/

namespace HttpRouting.Regex

abbrev Continuation := Cursor → Option Cursor

abbrev Matcher := Cursor → Continuation → Option Cursor

namespace Matcher

def orElse (first : Option Cursor) (second : Unit → Option Cursor) : Option Cursor :=
  match first with
  | some c => some c
  | none => second ()

def rounds (body : Matcher) : Nat → Matcher
  | 0 => fun c k => k c
  | n + 1 => fun c k => body c fun c => rounds body n c k

/-- As many more rounds as possible, then fewer; a round that moves nothing is the last. -/
def greedyRounds (body : Matcher) : Nat → Option Nat → Matcher
  | 0, _ => fun c k => k c
  | fuel + 1, left => fun c k =>
    if left = some 0 then k c
    else
      orElse
        (body c fun next =>
          if next.after.length < c.after.length then
            greedyRounds body fuel (left.map (· - 1)) next k
          else k next)
        fun _ => k c

def lazyRounds (body : Matcher) : Nat → Option Nat → Matcher
  | 0, _ => fun c k => k c
  | fuel + 1, left => fun c k =>
    orElse (k c) fun _ =>
      if left = some 0 then none
      else
        body c fun next =>
          if next.after.length < c.after.length then
            lazyRounds body fuel (left.map (· - 1)) next k
          else k next

def ownRounds (body : Matcher) : Nat → Cursor → Option Cursor
  | 0, c => some c
  | n + 1, c => (body c some).bind (ownRounds body n)

def possessiveRounds (body : Matcher) : Nat → Option Nat → Cursor → Cursor
  | 0, _, c => c
  | fuel + 1, left, c =>
    if left = some 0 then c
    else match body c some with
      | none => c
      | some next =>
        if next.after.length < c.after.length then
          possessiveRounds body fuel (left.map (· - 1)) next
        else next

/-- A repetition; each round that counts uses up a character, which bounds their number. -/
def loop (greed : Greed) (least : Nat) (most : Option Nat) (body : Matcher) : Matcher :=
  let left := most.map (· - least)
  fun c k =>
    match greed with
    | .greedy =>
      rounds body least c fun c => greedyRounds body (c.after.length + 1) left c k
    | .lazy =>
      rounds body least c fun c => lazyRounds body (c.after.length + 1) left c k
    | .possessive =>
      (ownRounds body least c).bind fun c =>
        k (possessiveRounds body (c.after.length + 1) left c)

/-- Looks from the cursor, or from as far behind it as the body is wide, and stays. -/
def look (direction : Direction) (negated : Bool) (body : Matcher) : Matcher := fun c k =>
  let origin := match direction with
    | .ahead => some c
    | .behind width _ => c.back? width
  match origin.bind fun origin => body origin some with
  | some marked => if negated then none else k (c.withMarksOf marked)
  | none => if negated then k c else none

end Matcher

def sameChar (flags : Flags) (a b : Char) : Bool :=
  if flags.ignoreCase then foldChar flags.ascii a == foldChar flags.ascii b else a == b

def Node.run : Node → Flags → Matcher
  | .empty, _ => fun c k => k c
  | .chars negated items, flags => fun c k => (c.advance? (accepts flags negated items)).bind k
  | .any, flags => fun c k => (c.advance? fun x => flags.dotAll || x != '\n').bind k
  | .anchor a, flags => fun c k => if c.satisfies flags a then k c else none
  | .seq first second, flags => fun c k => first.run flags c fun c => second.run flags c k
  | .alt first second, flags => fun c k =>
    Matcher.orElse (first.run flags c k) fun _ => second.run flags c k
  | .loop greed least most body, flags => Matcher.loop greed least most (body.run flags)
  | .group index body, flags => fun c k =>
    body.run flags (c.openGroup index) fun c => k (c.closeGroup index)
  | .flagged on off body, flags => body.run (flags.within on off)
  | .atomic body, flags => fun c k => (body.run flags c some).bind k
  | .look direction negated body, flags => Matcher.look direction negated (body.run flags)
  | .backreference index, flags => fun c k =>
    ((c.group? index).bind fun text => c.advanceOver? (sameChar flags) text).bind k
  | .conditional index present absent, flags => fun c k =>
    if (c.group? index).isSome then present.run flags c k else absent.run flags c k

end HttpRouting.Regex
