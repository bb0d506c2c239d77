import Signoff.Pattern.Basic

/-!
Machines for regular expressions. A machine is a list of instructions; matching follows every path
through them at once, so it takes time in proportion to the text.
-/

namespace Signoff.Pattern

/-- One instruction; the numbers are places of instructions that follow. -/
inductive Instruction where
  | char (c : CharClass) (next : Nat)
  | place (a : Assertion) (ascii : Bool) (next : Nat)
  | fork (left right : Nat)
  | accept
  deriving Inhabited

/-- Instructions and the place of the first. -/
structure Program where
  code : Array Instruction
  start : Nat
  deriving Inhabited

namespace Program

/-- The place to enter at, and the code so far. -/
abbrev Build := Nat × Array Instruction

/-- Puts one instruction in front. -/
def push (i : Instruction) (code : Array Instruction) : Build := (code.size, code.push i)

/-- Puts code in front as many times as told. -/
def copies (f : Nat → Array Instruction → Build) : Nat → Build → Build
  | 0, b => b
  | n + 1, (next, code) => copies f n (f next code)

/-- Puts code in front as many times as told, each time with a way around it to `exit`. -/
def optionals (f : Nat → Array Instruction → Build) (exit : Nat) : Nat → Build → Build
  | 0, b => b
  | n + 1, (next, code) =>
    let (entry, code) := f next code
    optionals f exit n (push (.fork entry exit) code)

/-- The code of a tree, put in front of the code that goes on at `next`. -/
def emit : Tree → Nat → Array Instruction → Build
  | .empty, next, code => (next, code)
  | .char c, next, code => push (.char c next) code
  | .place a ascii, next, code => push (.place a ascii next) code
  | .seq a b, next, code =>
    let (next, code) := emit b next code
    emit a next code
  | .alt a b, next, code =>
    let (right, code) := emit b next code
    let (left, code) := emit a next code
    push (.fork left right) code
  | .repeated a least most, next, code =>
    match most with
    | none =>
      let loop := code.size
      let (body, code) := emit a loop (code.push .accept)
      copies (emit a) least (loop, code.setIfInBounds loop (.fork body next))
    | some most => copies (emit a) least (optionals (emit a) next (most - least) (next, code))
  | .group a, next, code => emit a next code

/-- The machine of a tree. -/
def ofTree (t : Tree) : Program :=
  let (start, code) := emit t 0 #[.accept]
  ⟨code, start⟩

/-- Places reached between two characters: those seen, those that wait for a character, and
whether the end was reached. -/
structure Front where
  seen : Array Bool
  waiting : List (CharClass × Nat)
  accepted : Bool

/-- Whether a word character is asked for in ASCII or in Unicode. -/
def isWord (ascii : Bool) (c : Char) : Bool :=
  if ascii then c.toNat < 128 && (c.isAlphanum || c == '_') else Text.isWord c

/-- Follows all ways that take no character. Each step leaves a place that was not seen before or
drops one that was. -/
def spread (code : Array Instruction) (before after : Option Char) :
    Nat → List Nat → Front → Front
  | 0, _, front => front
  | _ + 1, [], front => front
  | steps + 1, place :: todo, front =>
    if front.seen[place]?.getD true then spread code before after steps todo front
    else
      let front := { front with seen := front.seen.setIfInBounds place true }
      match code[place]? with
      | none => spread code before after steps todo front
      | some (.char c next) =>
        spread code before after steps todo { front with waiting := (c, next) :: front.waiting }
      | some (.place a ascii next) =>
        let todo := if a.holds (isWord ascii) before after then next :: todo else todo
        spread code before after steps todo front
      | some (.fork left right) => spread code before after steps (left :: right :: todo) front
      | some .accept => { front with accepted := true }

/-- The front at a place, from the places that were reached there. -/
def frontAt (p : Program) (before after : Option Char) (places : List Nat) : Front :=
  spread p.code before after (2 * p.code.size + places.length + 2) places
    ⟨Array.replicate p.code.size false, [], false⟩

/-- Whether a match ends at or after this place, given the places reached by matches under way. -/
def matchesFrom (p : Program) (before : Option Char) (places : List Nat) : List Char → Bool
  | [] => (frontAt p before none (p.start :: places)).accepted
  | c :: rest =>
    let front := frontAt p before (some c) (p.start :: places)
    if front.accepted then true
    else
      matchesFrom p (some c)
        (front.waiting.filterMap fun (cls, next) => if cls.contains c then some next else none) rest

/-- Whether some part of the text matches. -/
def matchesIn (p : Program) (text : String) : Bool := matchesFrom p none [] text.toList

end Program
end Signoff.Pattern
