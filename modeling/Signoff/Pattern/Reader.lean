import Signoff.Pattern.Named

/-!
Reading regular expressions: literals, classes, groups, flags, repetitions and assertions. There are
no back references and no lookaround, so that matching stays linear.
-/

namespace Signoff.Pattern

/-- What letters in `(?...)` switch on and off. -/
structure Flags where
  caseless : Bool
  multiline : Bool
  dotAll : Bool
  crlf : Bool
  /-- Classes and words by Unicode, not by ASCII. -/
  unicode : Bool
  /-- Blanks and comments count for nothing. -/
  verbose : Bool
  deriving DecidableEq, Repr

def Flags.initial : Flags := ⟨false, false, false, false, true, false⟩

/-- Switches the flag of a letter; greed makes no difference here. -/
def Flags.set? (f : Flags) (letter : Char) (on : Bool) : Option Flags :=
  match letter with
  | 'i' => some { f with caseless := on }
  | 'm' => some { f with multiline := on }
  | 's' => some { f with dotAll := on }
  | 'U' => some f
  | 'u' => some { f with unicode := on }
  | 'R' => some { f with crlf := on }
  | 'x' => some { f with verbose := on }
  | _ => none

/-- Drops blanks and comments; a comment ends with its line. -/
def skipComments (inComment : Bool) : List Char → List Char
  | [] => []
  | c :: rest =>
    if inComment then skipComments (c != '\n') rest
    else if c = '#' then skipComments true rest
    else if Text.isBlank c then skipComments false rest
    else c :: rest

/-- Drops what does not count in front. -/
def Flags.skip (f : Flags) (s : List Char) : List Char :=
  if f.verbose then skipComments false s else s

/-- A piece of an expression that an escape or a plain character stands for. -/
inductive Piece where
  /-- A character, and whether it was written as a byte in hexadecimal. -/
  | literal (c : Char) (byte : Bool)
  | cls (c : CharClass)
  | place (a : Assertion)

namespace Reader

/-- Characters with a meaning of their own. -/
def isMeta (c : Char) : Bool := "\\.+*?()|[]\x7b\x7d^$#&-~".toList.contains c

/-- Whether a backslash in front of a character stands for the character. -/
def isEscapable (c : Char) : Bool :=
  isMeta c || (c.toNat < 128 && !c.isAlphanum && c != '<' && c != '>')

def hexValue? (c : Char) : Option Nat :=
  if '0' ≤ c ∧ c ≤ '9' then some (c.toNat - '0'.toNat)
  else if 'a' ≤ c ∧ c ≤ 'f' then some (c.toNat - 'a'.toNat + 10)
  else if 'A' ≤ c ∧ c ≤ 'F' then some (c.toNat - 'A'.toNat + 10)
  else none

/-- The character of a code point. -/
def charOf? (n : Nat) : Option Char := if n.isValidChar then some (Char.ofNat n) else none

/-- The value of hexadecimal digits. -/
def hexNumber? (digits : List Char) : Option Nat :=
  digits.foldlM (fun n c => (hexValue? c).map (n * 16 + ·)) 0

/-- Takes this many characters, leaving out what does not count between them. -/
def takeApart (f : Flags) : Nat → List Char → Option (List Char × List Char)
  | 0, s => some ([], s)
  | n + 1, s =>
    match f.skip s with
    | [] => none
    | c :: rest => (takeApart f n rest).map fun (cs, rest) => (c :: cs, rest)

/-- Takes characters up to a closing brace. -/
def takeBraced (f : Flags) (s : List Char) : Option (List Char × List Char) :=
  let inner := s.takeWhile (· != '\x7d')
  match s.dropWhile (· != '\x7d') with
  | _ :: rest => some (if f.verbose then inner.filter (!Text.isBlank ·) else inner, rest)
  | [] => none

/-- A character in hexadecimal, with this many digits or in braces. -/
def hexEscape? (f : Flags) (digits : Nat) (s : List Char) : Option (Char × List Char) :=
  match f.skip s with
  | '\x7b' :: rest => do
    let (inner, rest) ← takeBraced f rest
    if inner.isEmpty then none
    let n ← hexNumber? inner
    let c ← charOf? n
    return (c, rest)
  | s => do
    let (inner, rest) ← takeApart f digits s
    let n ← hexNumber? inner
    let c ← charOf? n
    return (c, rest)

/-- Splits at the first occurrence of some characters. -/
def splitAt? (mark : List Char) : List Char → Option (List Char × List Char)
  | [] => none
  | c :: rest =>
    if mark.isPrefixOf (c :: rest) then some ([], (c :: rest).drop mark.length)
    else (splitAt? mark rest).map fun (before, after) => (c :: before, after)

/-- The class of what stands in the braces after `\p`. -/
def bracedProperty? (inner : List Char) : Option CharClass :=
  match splitAt? ['!', '='] inner with
  | some (p, v) => (Named.ofValue? (String.ofList p) (String.ofList v)).map .compl
  | none =>
    match splitAt? [':'] inner <|> splitAt? ['='] inner with
    | some (p, v) => Named.ofValue? (String.ofList p) (String.ofList v)
    | none => Named.ofName? (String.ofList inner)

/-- The class after `\p` or `\P`; only by Unicode. -/
def propertyEscape? (f : Flags) (negated : Bool) (s : List Char) : Option (CharClass × List Char) := do
  let (cls, rest) ← match f.skip s with
    | '\x7b' :: rest => do
      let (inner, rest) ← takeBraced f rest
      let cls ← bracedProperty? inner
      some (cls, rest)
    | c :: rest =>
      if c = '\\' then none
      else (Named.ofName? (String.singleton c)).map fun cls => (cls, rest)
    | [] => none
  if f.unicode then
    let cls := if f.caseless then .folded cls else cls
    return (if negated then .compl cls else cls, rest)
  else none

/-- The class of a letter such as `\d`, capital when negated. -/
def letterClass? (f : Flags) (letter : Char) : Option CharClass :=
  let byLetter : Char → Option CharClass := fun
    | 'd' => if f.unicode then some .digit else Named.ascii? "digit"
    | 's' => if f.unicode then some .blank else Named.ascii? "space"
    | 'w' => if f.unicode then some .word else Named.ascii? "word"
    | _ => none
  match byLetter letter with
  | some c => some c
  | none => (byLetter (Text.lowerAscii letter)).map .compl

/-- The names of word edges in braces. -/
def edge? (name : String) : Option Assertion :=
  match name with
  | "start" => some .wordStart
  | "end" => some .wordEnd
  | "start-half" => some .wordStartHalf
  | "end-half" => some .wordEndHalf
  | _ => none

/-- What comes after `\b`: braces with letters in them name an edge, others are left alone. -/
def wordEdge? (f : Flags) (s : List Char) : Option (Assertion × List Char) :=
  let isNamePart (c : Char) : Bool := c.isAlpha || c == '-'
  match s with
  | '\x7b' :: rest =>
    match f.skip rest with
    | [] => none
    | c :: rest' =>
      if !isNamePart c then some (.wordEdge, s)
      else
        let inner := (c :: rest').takeWhile fun c => isNamePart c || (f.verbose && Text.isBlank c)
        match (c :: rest').drop inner.length with
        | '\x7d' :: rest =>
          (edge? (String.ofList (inner.filter (!Text.isBlank ·)))).map fun a => (a, rest)
        | _ => none
  | s => some (.wordEdge, s)

/-- What an escape stands for, its backslash gone. -/
def escape? (f : Flags) : List Char → Option (Piece × List Char)
  | [] => none
  | c :: rest =>
    if '0' ≤ c ∧ c ≤ '9' then none
    else if c = 'x' then (hexEscape? f 2 rest).map fun (d, r) =>
      (.literal d (rest.head? != some '\x7b'), r)
    else if c = 'u' then (hexEscape? f 4 rest).map fun (d, r) => (.literal d false, r)
    else if c = 'U' then (hexEscape? f 8 rest).map fun (d, r) => (.literal d false, r)
    else if c = 'p' ∨ c = 'P' then (propertyEscape? f (c = 'P') rest).map fun (k, r) => (.cls k, r)
    else
      match letterClass? f c with
      | some k => some (.cls k, rest)
      | none =>
        if isEscapable c then some (.literal c false, rest)
        else
          match c with
          | 'a' => some (.literal '\x07' false, rest)
          | 'f' => some (.literal '\x0c' false, rest)
          | 't' => some (.literal '\t' false, rest)
          | 'n' => some (.literal '\n' false, rest)
          | 'r' => some (.literal '\r' false, rest)
          | 'v' => some (.literal '\x0b' false, rest)
          | 'A' => some (.place .textStart, rest)
          | 'z' => some (.place .textEnd, rest)
          | 'b' => (wordEdge? f rest).map fun (a, r) => (.place a, r)
          | 'B' => some (.place .noWordEdge, rest)
          | '<' => some (.place .wordStart, rest)
          | '>' => some (.place .wordEnd, rest)
          | _ => none

/-- Letters of either case, when case does not count. -/
def caseless (f : Flags) (c : CharClass) : CharClass :=
  if !f.caseless then c else if f.unicode then .folded c else .foldedAscii c

/-- A literal outside of classes; bytes beyond ASCII are no text. -/
def literalTree? (f : Flags) (c : Char) (byte : Bool) : Option Tree :=
  if !f.unicode && byte && 128 ≤ c.toNat then none
  else some (.char (caseless f (.single c)))

/-- A class outside of brackets. -/
def classTree? (f : Flags) (c : CharClass) : Option Tree :=
  if f.unicode || c.isAscii then some (.char c) else none

def pieceTree? (f : Flags) : Piece → Option Tree
  | .literal c byte => literalTree? f c byte
  | .cls c => classTree? f c
  | .place a => some (.place a !f.unicode)

/-- The point: any character but the end of a line. -/
def pointTree? (f : Flags) : Option Tree :=
  if !f.unicode then none
  else if f.dotAll then some (.char (.compl .nothing))
  else if f.crlf then some (.char (.compl (.union (.single '\n') (.single '\r'))))
  else some (.char (.compl (.single '\n')))

def lineStart (f : Flags) : Assertion :=
  if !f.multiline then .textStart else if f.crlf then .lineStartCrlf else .lineStart

def lineEnd (f : Flags) : Assertion :=
  if !f.multiline then .textEnd else if f.crlf then .lineEndCrlf else .lineEnd

/-- How two sets in brackets are combined. -/
inductive SetOp where
  | both
  | without
  | either

def SetOp.apply (op : SetOp) (a b : CharClass) : CharClass :=
  match op with
  | .both => .inter a b
  | .without => .diff a b
  | .either => .union (.diff a b) (.diff b a)

/-- A class in brackets while it is read: a set that waits to be combined, and the items since. -/
structure SetScan where
  waiting : Option (SetOp × CharClass)
  items : List CharClass
  /-- How deep the classes in it are nested. -/
  depth : Nat

def SetScan.push (s : SetScan) (c : CharClass) : SetScan := { s with items := c :: s.items }

def SetScan.current (s : SetScan) : CharClass := s.items.foldr .union .nothing

/-- Closes the set at hand. -/
def SetScan.combined (s : SetScan) (f : Flags) : CharClass :=
  match s.waiting with
  | none => s.current
  | some (op, left) => op.apply (caseless f left) (caseless f s.current)

def SetScan.operate (s : SetScan) (f : Flags) (op : SetOp) : SetScan :=
  ⟨some (op, s.combined f), [], s.depth + 1⟩

/-- One item of a class. -/
def setItem? (f : Flags) : List Char → Option (Piece × List Char)
  | [] => none
  | '\\' :: rest => escape? f rest
  | c :: rest => some (.literal c false, rest)

/-- A character inside of a class. -/
def setLiteral? (f : Flags) : Piece → Option Char
  | .literal c byte => if f.unicode || c.toNat < 128 || byte then some c else none
  | _ => none

def setClass? (f : Flags) : Piece → Option CharClass
  | .cls c => some c
  | .place _ => none
  | p => (setLiteral? f p).map .single

/-- One item or a range of a class. -/
def setRange? (f : Flags) (s : List Char) : Option (CharClass × List Char) := do
  let (first, s) ← setItem? f s
  let s := f.skip s
  match s with
  | [] => none
  | '-' :: rest =>
    match f.skip rest with
    | ']' :: _ | '-' :: _ => (setClass? f first).map fun c => (c, s)
    | rest =>
      let (last, s) ← setItem? f rest
      let low ← setLiteral? f first
      let high ← setLiteral? f last
      if low ≤ high then return (.range low.toNat high.toNat, s) else none
  | _ => (setClass? f first).map fun c => (c, s)

/-- An ASCII class such as `[:alpha:]`, its first bracket gone. -/
def asciiClass? (s : List Char) : Option (CharClass × List Char) :=
  match s with
  | ':' :: rest =>
    let (negated, rest) := match rest with
      | '^' :: r => (true, r)
      | r => (false, r)
    let name := rest.takeWhile (· != ':')
    match rest.drop name.length with
    | ':' :: ']' :: rest =>
      (Named.ascii? (String.ofList name)).map fun c => (if negated then .compl c else c, rest)
    | _ => none
  | _ => none

/-- Hyphens at the front of a class stand for themselves. -/
def leadingHyphens (f : Flags) : Nat → List Char → SetScan → List Char × SetScan
  | 0, s, scan => (s, scan)
  | steps + 1, s, scan =>
    match s with
    | '-' :: rest => leadingHyphens f steps (f.skip rest) (scan.push (.single '-'))
    | s => (s, scan)

/-- The front of a class, its bracket gone: whether it is negated, and what stands for itself
there. -/
def setOpening? (f : Flags) (s : List Char) : Option (Bool × SetScan × List Char) :=
  let (negated, s) := match f.skip s with
    | '^' :: rest => (true, f.skip rest)
    | s => (false, s)
  let (s, scan) := leadingHyphens f s.length s ⟨none, [], 0⟩
  match s with
  | [] => none
  | ']' :: rest => if scan.items.isEmpty then some (negated, scan.push (.single ']'), f.skip rest)
    else some (negated, scan, s)
  | s => some (negated, scan, s)

/-- The whole of a class in brackets. -/
def closeSet (f : Flags) (negated : Bool) (scan : SetScan) : CharClass :=
  let c := caseless f (scan.combined f)
  if negated then .compl c else c

/-- Reads a class up to its closing bracket, with its depth. -/
def readSet : Nat → Flags → Bool → SetScan → List Char → Option (CharClass × Nat × List Char)
  | 0, _, _, _, _ => none
  | steps + 1, f, negated, scan, s =>
    match f.skip s with
    | [] => none
    | '[' :: rest =>
      match asciiClass? rest with
      | some (c, rest) => readSet steps f negated (scan.push c) rest
      | none => do
        let (innerNegated, inner, rest) ← setOpening? f rest
        let (c, depth, rest) ← readSet steps f innerNegated inner rest
        readSet steps f negated { scan.push c with depth := max scan.depth depth } rest
    | ']' :: rest => some (closeSet f negated scan, scan.depth + 2, rest)
    | '&' :: '&' :: rest => readSet steps f negated (scan.operate f .both) rest
    | '-' :: '-' :: rest => readSet steps f negated (scan.operate f .without) rest
    | '~' :: '~' :: rest => readSet steps f negated (scan.operate f .either) rest
    | s => do
      let (c, rest) ← setRange? f s
      readSet steps f negated (scan.push c) rest

/-- A tree with how deep it is nested. -/
structure Node where
  tree : Tree
  depth : Nat

/-- The deepest nesting that is read. -/
def maxDepth : Nat := 250

/-- Something that stands in a row: a tree, or flags, which cannot be repeated. -/
inductive Item where
  | node (n : Node)
  | directive

def Item.depth : Item → Nat
  | .node n => n.depth
  | .directive => 0

def Item.tree : Item → Tree
  | .node n => n.tree
  | .directive => .empty

/-- A row of items, last one first. -/
def rowOf (items : List Item) : Node :=
  match items with
  | [] => ⟨.empty, 0⟩
  | [item] => ⟨item.tree, item.depth⟩
  | items =>
    ⟨items.foldl (fun t item => match item with
      | .node n => .seq n.tree t
      | .directive => t) .empty, (items.map Item.depth).foldl max 0 + 1⟩

/-- Alternatives, last one first. -/
def choiceOf (last : Node) (rows : List Node) : Node :=
  match rows with
  | [] => last
  | rows =>
    ⟨rows.foldl (fun t n => .alt n.tree t) last.tree, (rows.map Node.depth).foldl max last.depth + 1⟩

/-- Repeats a tree; what matches the empty text only is the same once and many times. -/
def repeatTree (t : Tree) (least : Nat) (most : Option Nat) : Tree :=
  let (least, most) :=
    if t.isVoid then (min least 1, some (min (most.getD 1) 1)) else (least, most)
  match most with
  | some 0 => .empty
  | some 1 => if least = 1 then t else .repeated t least (some 1)
  | most => .repeated t least most

def repeatItem (n : Node) (least : Nat) (most : Option Nat) : Item :=
  .node ⟨repeatTree n.tree least most, n.depth + 1⟩

/-- Drops the mark of a repetition that prefers few. -/
def skipLazy : List Char → List Char
  | '?' :: rest => rest
  | s => s

/-- Digits that blanks may stand between, when they do not count. -/
def takeDigits (f : Flags) : List Char → List Char × List Char
  | [] => ([], [])
  | c :: rest =>
    if c.isDigit then
      let (digits, rest) := takeDigits f rest
      (c :: digits, rest)
    else if f.verbose && Text.isBlank c then takeDigits f rest
    else ([], c :: rest)

/-- What a bound of a repetition says: nothing, a number, or one that is too large. -/
inductive Bound where
  | absent
  | number (n : Nat)
  | tooLarge

/-- A bound of a repetition; blanks around it do not count. -/
def readBound (f : Flags) (s : List Char) : Bound × List Char :=
  let (digits, rest) := takeDigits f (s.dropWhile Text.isBlank)
  let rest := rest.dropWhile Text.isBlank
  if digits.isEmpty then (.absent, rest)
  else
    let n := digits.foldl (fun n c => n * 10 + (c.toNat - '0'.toNat)) 0
    (if n ≤ 0xffffffff then .number n else .tooLarge, rest)

/-- Bounds in braces, the first brace gone: at least, at most, and the rest. -/
def readBounds? (f : Flags) (s : List Char) : Option (Nat × Option Nat × List Char) := do
  let (least, s) := readBound f (f.skip s)
  let least ← match least with
    | .number n => some n
    | _ => none
  let (most, s) ← match s with
    | ',' :: rest =>
      match f.skip rest with
      | '\x7d' :: rest => some (none, '\x7d' :: rest)
      | rest =>
        match readBound f rest with
        | (.number n, rest) => some (some n, rest)
        | _ => none
    | s => some (some least, s)
  match s with
  | '\x7d' :: rest =>
    if most.all (least ≤ ·) then some (least, most, skipLazy (f.skip rest)) else none
  | _ => none

/-- Flags of a group up to their end, with the flags so far, the letters seen, and whether they are
switched off; gives the new flags, the character that ends them, and whether there were any. -/
def readFlags? (f : Flags) (seen : List Char) (off : Bool) (dangling : Bool) :
    List Char → Option (Flags × Char × Bool × List Char)
  | [] => none
  | c :: rest =>
    if c = ':' ∨ c = ')' then if dangling then none else some (f, c, !seen.isEmpty, rest)
    else if c = '-' then if off then none else readFlags? f seen true true rest
    else if seen.contains c then none
    else
      match f.set? c (!off) with
      | none => none
      | some f => readFlags? f (c :: seen) off false rest

/-- Whether a character may stand in the name of a group. -/
def isNameChar (c : Char) (first : Bool) : Bool :=
  if first then c == '_' || Text.isAlphabetic c
  else c == '_' || c == '.' || c == '[' || c == ']' || Text.isAlphanumeric c

/-- The name of a group, up to its closing bracket. -/
def readName? (s : List Char) : Option (String × List Char) :=
  let name := s.takeWhile (· != '>')
  match name, s.drop name.length with
  | c :: cs, _ :: rest =>
    if isNameChar c true && cs.all (isNameChar · false) then some (String.ofList name, rest)
    else none
  | _, _ => none

/-- How a group begins. -/
inductive Opening where
  /-- Flags for the rest of the group around it. -/
  | flags (f : Flags)
  /-- A group with flags of its own; it may be counted. -/
  | group (f : Flags) (counted : Bool)

/-- The front of a group, its parenthesis gone, with the names of groups so far. -/
def readOpening? (f : Flags) (names : List String) (s : List Char) :
    Option (Opening × List String × List Char) :=
  let named (s : List Char) : Option (Opening × List String × List Char) := do
    let (name, rest) ← readName? s
    if names.contains name then none else some (.group f true, name :: names, rest)
  match f.skip s with
  | '?' :: '=' :: _ | '?' :: '!' :: _ | '?' :: '<' :: '=' :: _ | '?' :: '<' :: '!' :: _ => none
  | '?' :: 'P' :: '<' :: rest => named rest
  | '?' :: '<' :: rest => named rest
  | '?' :: rest => do
    let (inner, last, any, rest) ← readFlags? f [] false false rest
    if last = ':' then some (.group inner false, names, rest)
    else if any then some (.flags inner, names, rest)
    else none
  | s => some (.group f true, names, s)

/-- What reading a body leaves behind: its tree, the names of groups so far, and the rest. -/
structure Body where
  node : Node
  names : List String
  rest : List Char

/-- Reads alternatives up to a closing parenthesis or the end. -/
def readBody : Nat → Flags → List String → List Node → List Item → List Char → Option Body
  | 0, _, _, _, _, _ => none
  | steps + 1, f, names, rows, items, s =>
    let s := f.skip s
    let add (item : Item) (rest : List Char) : Option Body :=
      readBody steps f names rows (item :: items) rest
    let again (least : Nat) (most : Option Nat) (rest : List Char) : Option Body :=
      match items with
      | .node n :: items => readBody steps f names rows (repeatItem n least most :: items) rest
      | _ => none
    match s with
    | [] => some ⟨choiceOf (rowOf items) rows, names, []⟩
    | ')' :: _ => some ⟨choiceOf (rowOf items) rows, names, s⟩
    | '|' :: rest => readBody steps f names (rowOf items :: rows) [] rest
    | '(' :: rest => do
      let (opening, names, rest) ← readOpening? f names rest
      match opening with
      | .flags f => readBody steps f names rows (.directive :: items) rest
      | .group inner counted =>
        let body ← readBody steps inner names [] [] rest
        match body.rest with
        | ')' :: rest =>
          let tree := if counted then .group body.node.tree else body.node.tree
          let item := .node ⟨tree, body.node.depth + 1⟩
          readBody steps f body.names rows (item :: items) rest
        | _ => none
    | '[' :: rest => do
      let (negated, scan, rest) ← setOpening? f rest
      let (c, depth, rest) ← readSet (2 * rest.length + 2) f negated scan rest
      let tree ← classTree? f c
      add (.node ⟨tree, depth⟩) rest
    | '?' :: rest => again 0 (some 1) (skipLazy rest)
    | '*' :: rest => again 0 none (skipLazy rest)
    | '+' :: rest => again 1 none (skipLazy rest)
    | '\x7b' :: rest => do
      match items with
      | .node _ :: _ =>
        let (least, most, rest) ← readBounds? f rest
        again least most rest
      | _ => none
    | '\\' :: rest => do
      let (piece, rest) ← escape? f rest
      let tree ← pieceTree? f piece
      add (.node ⟨tree, 0⟩) rest
    | '.' :: rest => do
      let tree ← pointTree? f
      add (.node ⟨tree, 0⟩) rest
    | '^' :: rest => add (.node ⟨.place (lineStart f) false, 0⟩) rest
    | '$' :: rest => add (.node ⟨.place (lineEnd f) false, 0⟩) rest
    | c :: rest => do
      let tree ← literalTree? f c false
      add (.node ⟨tree, 0⟩) rest

/-- The tree of a whole expression. -/
def read? (text : String) : Option Tree := do
  let s := text.toList
  let body ← readBody (2 * s.length + 2) .initial [] [] [] s
  if body.rest.isEmpty && body.node.depth ≤ maxDepth then some body.node.tree else none

end Reader
end Signoff.Pattern
