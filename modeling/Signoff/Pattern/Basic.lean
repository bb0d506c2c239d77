import Signoff.Text.Blank
import Signoff.Text.Casing
import Signoff.Text.Property

/-!
Regular expressions: classes of characters, assertions about a place in a text, and the trees that
are built of them.
-/

namespace Signoff.Pattern

/-- A class of characters, as it was put together. -/
inductive CharClass where
  /-- Code points between bounds. -/
  | range (first last : Nat)
  | nothing
  /-- A named set of characters. -/
  | named (set : Text.CharSet)
  | digit
  | blank
  | word
  | compl (a : CharClass)
  | union (a b : CharClass)
  | inter (a b : CharClass)
  /-- Characters that differ in case only from one of the class. -/
  | folded (a : CharClass)
  /-- The same for ASCII letters. -/
  | foldedAscii (a : CharClass)
  deriving Inhabited

namespace CharClass

def single (c : Char) : CharClass := .range c.toNat c.toNat

def diff (a b : CharClass) : CharClass := .inter a (.compl b)

def ofRanges (ranges : List (Nat × Nat)) : CharClass :=
  ranges.foldr (fun (a, b) c => .union (.range a b) c) .nothing

/-- An ASCII letter in either case. -/
def asciiVariants (c : Char) : List Char :=
  if 'a' ≤ c ∧ c ≤ 'z' then [c, Char.ofNat (c.toNat - 32)]
  else if 'A' ≤ c ∧ c ≤ 'Z' then [c, Char.ofNat (c.toNat + 32)]
  else [c]

def contains : CharClass → Char → Bool
  | .range first last, c => first ≤ c.toNat && c.toNat ≤ last
  | .nothing, _ => false
  | .named set, c => set.contains c
  | .digit, c => Text.isDecimal c
  | .blank, c => Text.isBlank c
  | .word, c => Text.isWord c
  | .compl a, c => !a.contains c
  | .union a b, c => a.contains c || b.contains c
  | .inter a b, c => a.contains c && b.contains c
  | .folded a, c => (Text.Casing.variants c).any a.contains
  | .foldedAscii a, c => (asciiVariants c).any a.contains

/-- Whether a class keeps to ASCII. -/
def isAscii : CharClass → Bool
  | .range _ last => last < 128
  | .nothing => true
  | .named _ | .digit | .blank | .word => false
  | .compl a => match a with
    | .compl b => b.isAscii
    | _ => false
  | .union a b => a.isAscii && b.isAscii
  | .inter a b => a.isAscii || b.isAscii
  | .folded a => a.isAscii
  | .foldedAscii a => a.isAscii

/-- About how many ranges the class has. -/
def size : CharClass → Nat
  | .range _ _ => 1
  | .nothing => 0
  | .named set => set.size
  | .digit => 70
  | .blank => 10
  | .word => 770
  | .compl a => a.size + 1
  | .union a b => a.size + b.size
  | .inter a b => max a.size b.size
  | .folded a => a.size + 1
  | .foldedAscii a => a.size + 1

end CharClass

/-- A condition on the place between two characters. -/
inductive Assertion where
  | textStart
  | textEnd
  | lineStart
  | lineEnd
  /-- Lines that end in a carriage return, a line feed, or both. -/
  | lineStartCrlf
  | lineEndCrlf
  | wordEdge
  | noWordEdge
  | wordStart
  | wordEnd
  /-- No word character stands before. -/
  | wordStartHalf
  /-- No word character stands after. -/
  | wordEndHalf
  deriving DecidableEq, Repr

/-- Whether an assertion holds between two characters; none stands for an end of the text. -/
def Assertion.holds (a : Assertion) (isWord : Char → Bool) (before after : Option Char) : Bool :=
  let wordBefore := before.any isWord
  let wordAfter := after.any isWord
  match a with
  | .textStart => before.isNone
  | .textEnd => after.isNone
  | .lineStart => before.all (· == '\n')
  | .lineEnd => after.all (· == '\n')
  | .lineStartCrlf => before.all fun c => c == '\n' || (c == '\r' && after != some '\n')
  | .lineEndCrlf => after.all fun c => c == '\r' || (c == '\n' && before != some '\r')
  | .wordEdge => wordBefore != wordAfter
  | .noWordEdge => wordBefore == wordAfter
  | .wordStart => !wordBefore && wordAfter
  | .wordEnd => wordBefore && !wordAfter
  | .wordStartHalf => !wordBefore
  | .wordEndHalf => !wordAfter

/-- A regular expression. Which of several matches is preferred is left out: it does not change
whether there is one. -/
inductive Tree where
  | empty
  | char (c : CharClass)
  /-- An assertion, with words told by ASCII or by Unicode. -/
  | place (a : Assertion) (ascii : Bool)
  | seq (a b : Tree)
  | alt (a b : Tree)
  /-- At least `least` times, and at most as often as told. -/
  | repeated (a : Tree) (least : Nat) (most : Option Nat)
  /-- A group that is counted. -/
  | group (a : Tree)
  deriving Inhabited

namespace Tree

/-- Whether only the empty text can match. -/
def isVoid : Tree → Bool
  | .empty => true
  | .char _ => false
  | .place _ _ => true
  | .seq a b => a.isVoid && b.isVoid
  | .alt a b => a.isVoid && b.isVoid
  | .repeated a _ _ => a.isVoid
  | .group a => a.isVoid

/-- About how many bytes a machine for the expression takes. -/
def weight : Tree → Nat
  | .empty => 0
  | .char c => if c.isAscii then 32 + 8 * (c.size - 1) else 32 + 24 * c.size
  | .place _ _ => 32
  | .seq a b => a.weight + b.weight
  | .alt a b => a.weight + b.weight + 40
  | .repeated a least most =>
    match most with
    | none => a.weight * max least 1 + 40
    | some m => a.weight * m + 40 * (m - least)
  | .group a => a.weight + 64

/-- The heaviest machine that is built. -/
def maxWeight : Nat := 10 * 1024 * 1024

end Tree

end Signoff.Pattern
