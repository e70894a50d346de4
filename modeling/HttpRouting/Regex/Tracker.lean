import HttpRouting.Regex.Matcher
import HttpRouting.Regex.Trail

/-!
# Matching with trails

A possessive repetition of more than one class goes on from where its last
round failed, so what it matches depends on the trails of failed trials.  A
tracker matches as a matcher does, trying the same ways in the same order, and
returns the trail of its success or of its failure.  Marks that a failed trial
has set are taken back in full only inside other repetitions.

All this is what release 3.11 of the interpreter does whose expressions these
are.  It is documented otherwise, and later releases keep to it: the round that
failed is given up as a whole, and `x*+` matches what `(?>x*)` does.
-/

namespace HttpRouting.Regex

/-! ## Single classes -/

namespace Node

def isSingle : Node → Bool
  | chars _ _ | any => true
  | flagged _ _ body => body.isSingle
  | _ => false

def needsTrail : Node → Bool
  | seq first second | alt first second | conditional _ first second =>
    first.needsTrail || second.needsTrail
  | loop greed _ _ body => greed == .possessive && !body.isSingle || body.needsTrail
  | group _ body | flagged _ _ body | atomic body | look _ _ body => body.needsTrail
  | _ => false

end Node

structure Single where
  accepted : Char → Bool
  /-- Whether characters are folded and looked up, so that counting them leaves a trail. -/
  folded : Bool

namespace Single

def ofNode (flags : Flags) : Node → Single
  | .chars negated items =>
    { accepted := accepts flags negated items
      folded := flags.ignoreCase &&
        match items with
        | [.code n] => hasCase flags.ascii n && 1 < (twins flags.ascii (fold flags.ascii n)).length
        | items => items.any (·.isCased flags.ascii) }
  | .any => ⟨fun x => flags.dotAll || x != '\n', false⟩
  | .flagged on off body => ofNode (flags.within on off) body
  | _ => ⟨fun _ => false, false⟩

def reach (s : Single) : Nat → Cursor → List Cursor
  | 0, c => [c]
  | count + 1, c =>
    match c.advance? s.accepted with
    | none => [c]
    | some next => c :: s.reach count next

end Single

/-! ## What comes next -/

inductive Lead where
  | exact (code : Nat)
  | listed (accepted : Char → Bool)
  | unknown

namespace Lead

/-- Classes that ignore case are not looked at in advance, nor are single excluded characters. -/
def ofChars (flags : Flags) (negated : Bool) (items : List ClassItem) : Lead :=
  match negated, items with
  | false, [.code n] => if flags.ignoreCase && hasCase flags.ascii n then unknown else exact n
  | true, [.code _] => unknown
  | _, _ =>
    if flags.ignoreCase && items.any (·.isCased flags.ascii) then unknown
    else listed (accepts flags negated items)

def ofNode (after : Lead) : Node → Flags → Lead
  | .empty, _ => after
  | .chars negated items, flags => ofChars flags negated items
  | .seq first second, flags => ofNode (ofNode after second flags) first flags
  | .flagged on off body, flags => ofNode after body (flags.within on off)
  | _, _ => unknown

def excludesExactly (c : Cursor) : Lead → Bool
  | exact code => !c.after.head?.any fun x => x.toNat == code
  | _ => false

def excludes (c : Cursor) : Lead → Bool
  | listed accepted => !c.after.head?.any accepted
  | lead => lead.excludesExactly c

end Lead

/-! ## Trackers -/

abbrev Outcome := Except Trail Trail

abbrev Tracker := Cursor → Trail → (Cursor → Trail → Outcome) → Outcome

namespace Tracker

def done (c : Cursor) (t : Trail) : Outcome := .ok (t.arrive c)

/-- A second trial after a failed first; `guarded` when all its marks are taken back. -/
def orElse (guarded : Bool) (t : Trail) (first second : Trail → Outcome) : Outcome :=
  match first t with
  | .ok success => .ok success
  | .error failed => second (failed.retreat t guarded)

def choose (guarded : Bool) (t : Trail) (first second : Trail → Outcome) : Outcome :=
  orElse guarded t first fun t => orElse guarded t second .error

def returning (c : Cursor) : Outcome → Outcome
  | .ok success => .ok success
  | .error failed => .error (failed.arrive c)

/-! ### Repetitions of one class -/

def fromAny (guarded : Bool) (k : Cursor → Trail → Outcome) : List Cursor → Trail → Outcome
  | [], t => .error t
  | c :: rest, t => orElse guarded t (fun t => k c (t.arrive c)) (fromAny guarded k rest)

def fromNearest (guarded folded : Bool) (k : Cursor → Trail → Outcome) :
    List Cursor → Option Nat → Trail → Outcome
  | [], _, t => .error t
  | c :: rest, left, t =>
    orElse guarded t (fun t => k c (t.arrive c)) fun t =>
      let t := t.arrive (if folded then rest.headD c else c)
      if left = some 0 then .error t
      else fromNearest guarded folded k rest (left.map (· - 1)) t

def singleLoop (guarded : Bool) (next : Lead) (greed : Greed) (least : Nat) (most : Option Nat)
    (s : Single) : Tracker := fun c t k =>
  let room := c.after.length
  if room < least then .error t
  else
    let count := if greed == .lazy then room else min room (most.getD room)
    let reached := s.reach count c
    let farthest := reached.getLastD c
    let t := t.arrive (if s.folded then farthest else c)
    let enough := reached.drop least
    if enough.isEmpty then .error t
    else match greed with
      | .greedy => fromAny guarded k (enough.reverse.filter fun c => !next.excludesExactly c) t
      | .lazy => fromNearest guarded s.folded k enough (most.map (· - least)) t
      | .possessive => k farthest (t.arrive farthest)

/-! ### Other repetitions -/

def rounds (body : Tracker) : Nat → Tracker
  | 0 => fun c t k => k c t
  | n + 1 => fun c t k => returning c (body c (t.arrive c) fun c t => rounds body n c t k)

def greedyRounds (body : Tracker) : Nat → Option Nat → Tracker
  | 0, _ => fun c t k => k c t
  | fuel + 1, left => fun c t k =>
    let finish (c : Cursor) (t : Trail) : Outcome := returning c (k c (t.arrive c))
    if left = some 0 then finish c t
    else
      orElse true (t.arrive c)
        (fun t => body c t fun next t =>
          if next.index != c.index then
            greedyRounds body fuel (left.map (· - 1)) next t k
          else finish next t)
        (finish c)

def lazyRounds (guarded : Bool) (body : Tracker) : Nat → Option Nat → Tracker
  | 0, _ => fun c t k => k c t
  | fuel + 1, left => fun c t k =>
    orElse guarded (t.arrive c) (k c) fun t =>
      if left = some 0 then .error (t.arrive c)
      else
        returning c (body c (t.arrive c) fun next t =>
          if next.index != c.index then
            lazyRounds guarded body fuel (left.map (· - 1)) next t k
          else returning next (orElse guarded (t.arrive next) (k next) .error))

def ownRounds (body : Tracker) : Nat → Trail → Outcome
  | 0, t => .ok t
  | n + 1, t => (body t.place t done).bind (ownRounds body n)

/-- As many more rounds as possible, each on its own, up to where the last one failed. -/
def possessiveRounds (body : Tracker) : Nat → Option Nat → Trail → Trail
  | 0, _, t => t
  | fuel + 1, left, t =>
    if left = some 0 then t
    else match body t.place t done with
      | .error failed => failed.retreat t true
      | .ok success =>
        if success.place.index != t.place.index then
          possessiveRounds body fuel (left.map (· - 1)) success
        else success

/-- More rounds than end; a round may also go back to where a trial failed. -/
def roundLimit (c : Cursor) : Nat := (c.subject.length + 2) * (c.subject.length + 2)

def loop (guarded : Bool) (greed : Greed) (least : Nat) (most : Option Nat) (body : Bool → Tracker) :
    Tracker := fun c t k =>
  let left := most.map (· - least)
  let fuel := left.getD (roundLimit c) + 1
  match greed with
  | .greedy => rounds (body true) least c (t.arrive c) (greedyRounds (body true) fuel left · · k)
  | .lazy => rounds (body true) least c (t.arrive c) (lazyRounds guarded (body true) fuel left · · k)
  | .possessive =>
    match ownRounds (body guarded) least (t.arrive c) with
    | .error failed => .error (failed.arrive c)
    | .ok t =>
      let t := possessiveRounds (body guarded) fuel left t
      k t.place t

/-! ### Look-around -/

def look (guarded : Bool) (direction : Direction) (negated : Bool) (body : Tracker) : Tracker :=
  fun c t k =>
    let origin := match direction with
      | .ahead => some c
      | .behind width _ => c.back? width
    match origin with
    | none => if negated then k c t else .error t
    | some origin =>
      match body origin (t.arrive origin) done with
      | .ok success => if negated then .error success else k c success
      | .error failed => if negated then k c (failed.retreat t guarded) else .error failed

end Tracker

def Tracker.branch (c : Cursor) (lead : Lead) (isChoice : Bool) (enter : Trail → Outcome) (t : Trail) :
    Outcome :=
  if isChoice then enter t else if lead.excludes c then .error t else enter (t.arrive c)

def Node.isChoice : Node → Bool
  | .alt _ _ => true
  | _ => false

/-- Tracks a node, given whether marks are guarded and what comes next after it. -/
def Node.track : Node → Flags → Bool → Lead → Tracker
  | .empty, _, _, _ => fun c t k => k c t
  | .chars negated items, flags, _, _ => fun c t k =>
    match c.advance? (accepts flags negated items) with
    | none => .error t
    | some c => k c t
  | .any, flags, _, _ => fun c t k =>
    match c.advance? fun x => flags.dotAll || x != '\n' with
    | none => .error t
    | some c => k c t
  | .anchor a, flags, _, _ => fun c t k => if c.satisfies flags a then k c t else .error t
  | .seq first second, flags, guarded, next => fun c t k =>
    first.track flags guarded (.ofNode next second flags) c t fun c t =>
      second.track flags guarded next c t k
  | .alt first second, flags, guarded, _ => fun c t k =>
    let enter (n : Node) (track : Tracker) : Trail → Outcome :=
      Tracker.branch c (.ofNode .unknown n flags) n.isChoice fun t => track c t k
    Tracker.choose guarded t (enter first (first.track flags guarded .unknown))
      (enter second (second.track flags guarded .unknown))
  | .loop greed least most body, flags, guarded, next =>
    if body.isSingle then Tracker.singleLoop guarded next greed least most (.ofNode flags body)
    else Tracker.loop guarded greed least most fun guarded => body.track flags guarded .unknown
  | .group index body, flags, guarded, _ => fun c t k =>
    body.track flags guarded .unknown c (t.setMark (Trail.startMark index) c) fun c t =>
      k c (t.setMark (Trail.endMark index) c)
  | .flagged on off body, flags, guarded, next => body.track (flags.within on off) guarded next
  | .atomic body, flags, guarded, _ => fun c t k =>
    match body.track flags guarded .unknown c (t.arrive c) Tracker.done with
    | .error failed => .error (failed.arrive c)
    | .ok success => k success.place success
  | .look direction negated body, flags, guarded, _ =>
    Tracker.look guarded direction negated (body.track flags guarded .unknown)
  | .backreference index, flags, _, _ => fun c t k =>
    match (t.group? c.subject index).bind fun text => c.advanceOver? (sameChar flags) text with
    | none => .error t
    | some c => k c t
  | .conditional index present absent, flags, guarded, next => fun c t k =>
    if (t.group? c.subject index).isSome then
      present.track flags guarded (if absent = .empty then next else .unknown) c t k
    else absent.track flags guarded next c t k

def Node.trackWhole? (n : Node) (flags : Flags) (subject : List Char) : Option Trail :=
  let start := Cursor.atStart subject
  let finish (c : Cursor) (t : Trail) : Outcome := if c.after.isEmpty then .ok (t.arrive c) else .error t
  (n.track flags false .unknown start (.begin start) finish).toOption

end HttpRouting.Regex
