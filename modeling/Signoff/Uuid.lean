import Signoff.Json.Decode

/-!
Universally unique identifiers, known by their usual text: 32 hexadecimal digits in small letters,
with hyphens between the groups.
-/

namespace Signoff

namespace Uuid

/-- A hexadecimal digit, in small letters. -/
def digit? (c : Char) : Option Char :=
  match c with
  | 'A' => some 'a'
  | 'B' => some 'b'
  | 'C' => some 'c'
  | 'D' => some 'd'
  | 'E' => some 'e'
  | 'F' => some 'f'
  | c => if "0123456789abcdef".toList.contains c then some c else none

/-- The places of the hyphens. -/
def isHyphenPlace (place : Nat) : Bool := place == 8 || place == 13 || place == 18 || place == 23

/-- How many characters the text of an identifier has. -/
def textLength : Nat := 36

/-- Reads the characters from a place on, putting digits in small letters. -/
def readFrom (place : Nat) : List Char → Option (List Char)
  | [] => if place = textLength then some [] else none
  | c :: rest =>
    if isHyphenPlace place then
      if c = '-' then (readFrom (place + 1) rest).map ('-' :: ·) else none
    else (digit? c).bind fun d => (readFrom (place + 1) rest).map (d :: ·)

theorem digit?_of_digit? {c d : Char} (h : digit? c = some d) : digit? d = some d := by
  unfold digit? at h
  split at h
  · cases h; decide
  · cases h; decide
  · cases h; decide
  · cases h; decide
  · cases h; decide
  · cases h; decide
  · split at h
    · cases h
      unfold digit?
      split <;> simp_all
    · cases h

theorem readFrom_of_readFrom {place : Nat} {s t : List Char} (h : readFrom place s = some t) :
    readFrom place t = some t := by
  induction s generalizing place t with
  | nil =>
    rw [readFrom] at h
    split at h
    · next hp => cases h; simp [readFrom, hp]
    · cases h
  | cons c rest ih =>
    rw [readFrom] at h
    split at h
    · next hp =>
      split at h
      · obtain ⟨u, hu, rfl⟩ := Option.map_eq_some_iff.1 h
        simp [readFrom, hp, ih hu]
      · cases h
    · next hp =>
      obtain ⟨d, hd, h⟩ := Option.bind_eq_some_iff.1 h
      obtain ⟨u, hu, rfl⟩ := Option.map_eq_some_iff.1 h
      simp [readFrom, hp, digit?_of_digit? hd, ih hu]

end Uuid

/-- An identifier. -/
structure Uuid where
  text : String
  canonical : Uuid.readFrom 0 text.toList = some text.toList
  deriving DecidableEq

namespace Uuid

/-- The identifier all of whose digits are zero. -/
def nil : Uuid := ⟨"00000000-0000-0000-0000-000000000000", by decide⟩

/-- The identifier of hyphenated digits. -/
def ofHyphenated? (s : List Char) : Option Uuid :=
  match h : readFrom 0 s with
  | some t => some ⟨String.ofList t, by simpa using readFrom_of_readFrom h⟩
  | none => none

/-- Puts the hyphens between bare digits. -/
def hyphenate (s : List Char) : List Char :=
  s.take 8 ++ '-' :: (s.drop 8).take 4 ++ '-' :: (s.drop 12).take 4 ++ '-' :: (s.drop 16).take 4
    ++ '-' :: s.drop 20

/-- The name space that may stand in front of an identifier. -/
def urn : List Char := "urn:uuid:".toList

/-- Reads an identifier: bare digits, or hyphenated ones alone, in braces or in their name space. -/
def ofText? (text : String) : Option Uuid :=
  let s := text.toList
  if s.length = 32 then if s.contains '-' then none else ofHyphenated? (hyphenate s)
  else if s.length = 38 ∧ s.head? = some '\x7b' ∧ s.getLast? = some '\x7d' then
    ofHyphenated? (s.drop 1).dropLast
  else if s.length = 45 ∧ urn.isPrefixOf s then ofHyphenated? (s.drop urn.length)
  else ofHyphenated? s

theorem ofHyphenated?_text (u : Uuid) : ofHyphenated? u.text.toList = some u := by
  unfold ofHyphenated?
  split
  · next t h =>
    have : t = u.text.toList := Option.some.inj (h.symm.trans u.canonical)
    subst this
    simp
  · next h => rw [u.canonical] at h; cases h

theorem length_of_readFrom {place : Nat} {s t : List Char} (h : readFrom place s = some t) :
    place + s.length = textLength := by
  induction s generalizing place t with
  | nil =>
    rw [readFrom] at h
    split at h
    · next hp => simpa using hp
    · cases h
  | cons c rest ih =>
    rw [readFrom] at h
    split at h
    · split at h
      · obtain ⟨u, hu, _⟩ := Option.map_eq_some_iff.1 h
        simpa [Nat.add_assoc, Nat.add_comm 1] using ih hu
      · cases h
    · obtain ⟨d, _, h⟩ := Option.bind_eq_some_iff.1 h
      obtain ⟨u, hu, _⟩ := Option.map_eq_some_iff.1 h
      simpa [Nat.add_assoc, Nat.add_comm 1] using ih hu

theorem ofText?_text (u : Uuid) : ofText? u.text = some u := by
  have h : u.text.toList.length = 36 := by
    simpa [textLength] using length_of_readFrom u.canonical
  simp [ofText?, h, ofHyphenated?_text]

def toJson (u : Uuid) : Json := .str u.text

def decoder : Json.Decoder Uuid := Json.Decoder.string.bind? ofText?

end Uuid
end Signoff
