import Mathlib
import Signoff.Text.Utf8

/-!
Texts as bytes. A character is one byte below 128, or two to four bytes none of which is below 128,
and a later character has later bytes. So the bytes of texts are sorted as the texts are, and the
byte of an ASCII character stands in the bytes of a text only where the character stands in it.
-/

namespace Signoff.Utf8

/-- The bytes of a character. -/
def encode (c : Char) : List Nat := (String.utf8EncodeChar c).map (·.toNat)

/-- The bytes that a character with this code is written as. -/
inductive Written (n : Nat) : List Nat → Prop
  | one (high : n < 0x80) : Written n [n]
  | two (low : 0x80 ≤ n) (high : n < 0x800) : Written n [n / 0x40 + 0xC0, n % 0x40 + 0x80]
  | three (low : 0x800 ≤ n) (high : n < 0x10000) :
    Written n [n / 0x1000 + 0xE0, n / 0x40 % 0x40 + 0x80, n % 0x40 + 0x80]
  | four (low : 0x10000 ≤ n) (high : n < 0x110000) :
    Written n [n / 0x40000 + 0xF0, n / 0x1000 % 0x40 + 0x80, n / 0x40 % 0x40 + 0x80,
      n % 0x40 + 0x80]

theorem written_encode (c : Char) : Written c.toNat (encode c) := by
  have hval : c.val.toNat = c.toNat := rfl
  have hhigh : c.toNat < 0x110000 := by
    rcases c.valid with h | h <;> omega
  have hbyte {m k : Nat} (hm : m = k) (hk : k < 2 ^ 8) : m % 2 ^ 8 = k := by
    rw [hm, Nat.mod_eq_of_lt hk]
  unfold encode String.utf8EncodeChar
  simp only [hval]
  -- the masks of the leading bytes change nothing, as what is left of the code fits in them
  split_ifs with hone htwo hthree
  · simp only [List.map_cons, List.map_nil, UInt8.toNat_ofNat']
    rw [hbyte rfl (by omega)]
    exact .one (by omega)
  · simp only [List.map_cons, List.map_nil, UInt8.toNat_ofNat']
    rw [hbyte (k := c.toNat / 0x40 + 0xC0) (by omega) (by omega), hbyte rfl (by omega)]
    exact .two (by omega) (by omega)
  · simp only [List.map_cons, List.map_nil, UInt8.toNat_ofNat']
    rw [hbyte (k := c.toNat / 0x1000 + 0xE0) (by omega) (by omega), hbyte rfl (by omega),
      hbyte rfl (by omega)]
    exact .three (by omega) (by omega)
  · simp only [List.map_cons, List.map_nil, UInt8.toNat_ofNat']
    rw [hbyte (k := c.toNat / 0x40000 + 0xF0) (by omega) (by omega), hbyte rfl (by omega),
      hbyte rfl (by omega), hbyte rfl (by omega)]
    exact .four (by omega) hhigh

/-! ### The bytes of a text -/

theorem loop_eq (b : ByteArray) (i : Nat) (read : List UInt8) :
    ByteArray.toList.loop b i read = read.reverse ++ b.data.toList.drop i := by
  fun_induction ByteArray.toList.loop b i read with
  | case1 i read hi ih =>
    have hi' : i < b.data.toList.length := by rwa [Array.length_toList]
    have hbyte : b.get! i = b.data.toList[i] := getElem!_pos b.data i hi
    rw [ih, List.drop_eq_getElem_cons hi', List.reverse_cons, List.append_assoc,
      List.singleton_append, hbyte]
  | case2 i read hi =>
    have hend : b.data.toList.length ≤ i := by
      rw [Array.length_toList]
      exact not_lt.mp hi
    rw [List.drop_eq_nil_of_le hend, List.append_nil]

theorem toList_toUTF8 (s : String) : s.toUTF8.toList = s.toByteArray.data.toList := by
  rw [ByteArray.toList, loop_eq, List.reverse_nil, List.nil_append, List.drop_zero,
    String.toUTF8_eq_toByteArray]

theorem bytes_eq (s : String) : bytes s = s.toList.flatMap encode := by
  have hencode : s.toByteArray = s.toList.utf8Encode := by
    rw [← String.toByteArray_ofList, String.ofList_toList]
  rw [bytes, toList_toUTF8, hencode, List.utf8Encode, List.toList_data_toByteArray,
    List.map_flatMap]
  rfl

theorem bytes_append (s t : String) : bytes (s ++ t) = bytes s ++ bytes t := by
  rw [bytes_eq, bytes_eq, bytes_eq, String.toList_append, List.flatMap_append]

theorem length_bytes (s : String) : (bytes s).length = s.utf8ByteSize := by
  rw [bytes, List.length_map, toList_toUTF8, Array.length_toList]
  rfl

/-! ### The order of bytes -/

/-- The bytes of a later character come later, whatever follows. -/
theorem Written.lt {m n : Nat} {bs cs : List Nat} (hm : Written m bs) (hn : Written n cs)
    (h : m < n) (xs ys : List Nat) : bs ++ xs < cs ++ ys := by
  -- the first byte where they differ decides, and it is the first one unless they are equally many
  cases hm <;> cases hn <;>
    simp only [List.cons_append, List.nil_append, List.cons_lt_cons_iff] <;> omega

theorem encode_append_lt {c d : Char} (xs ys : List Nat) :
    encode c ++ xs < encode d ++ ys ↔ c < d ∨ c = d ∧ xs < ys := by
  rcases lt_trichotomy c d with h | rfl | h
  · have hlt := (written_encode c).lt (written_encode d) h xs ys
    simp only [hlt, h, true_or]
  · have hsame : encode c ++ xs < encode c ++ ys ↔ xs < ys := by
      rcases lt_trichotomy xs ys with h | rfl | h
      · simp only [List.append_left_lt h, h]
      · simp only [lt_irrefl]
      · simp only [(List.append_left_lt h).not_gt, h.not_gt]
    simp only [hsame, lt_irrefl, true_and, false_or]
  · have hlt := (written_encode d).lt (written_encode c) h ys xs
    simp only [hlt.not_gt, h.not_gt, h.ne', false_and, or_false]

/-- Texts are sorted by their characters as they are by their bytes. -/
theorem bytes_lt {s t : String} : bytes s < bytes t ↔ s < t := by
  rw [bytes_eq, bytes_eq, String.lt_iff_toList_lt]
  generalize s.toList = cs, t.toList = ds
  induction cs generalizing ds with
  | nil =>
    cases ds with
    | nil => simp
    | cons d ds =>
      have hne : encode d ≠ [] := by
        rw [encode, ne_eq, List.map_eq_nil_iff]
        exact String.utf8EncodeChar_ne_nil
      obtain ⟨b, bs, hfirst⟩ := List.exists_cons_of_ne_nil hne
      simp [hfirst]
  | cons c cs ih =>
    cases ds with
    | nil => simp
    | cons d ds =>
      rw [List.flatMap_cons, List.flatMap_cons, encode_append_lt, ih, List.cons_lt_cons_iff]

theorem bytes_inj {s t : String} : bytes s = bytes t ↔ s = t := by
  constructor
  · intro h
    rcases lt_trichotomy s t with hlt | heq | hgt
    · exact absurd h (bytes_lt.mpr hlt).ne
    · exact heq
    · exact absurd h (bytes_lt.mpr hgt).ne'
  · rintro rfl
    rfl

/-! ### ASCII characters -/

theorem mem_encode {mark c : Char} (hmark : mark.toNat < 0x80) :
    mark.toNat ∈ encode c ↔ mark = c := by
  have hcode : mark = c ↔ mark.toNat = c.toNat := Char.toNat_inj.symm
  have hwritten := written_encode c
  rw [hcode]
  generalize c.toNat = n, encode c = bs at hwritten ⊢
  cases hwritten <;> simp only [List.mem_cons, List.not_mem_nil, or_false] <;> omega

theorem mem_bytes {mark : Char} (hmark : mark.toNat < 0x80) {s : String} :
    mark.toNat ∈ bytes s ↔ mark ∈ s.toList := by
  rw [bytes_eq, List.mem_flatMap]
  simp only [mem_encode hmark, exists_eq_right']

theorem encode_ascii {mark : Char} (hmark : mark.toNat < 0x80) : encode mark = [mark.toNat] := by
  have hwritten := written_encode mark
  generalize encode mark = bs at hwritten ⊢
  cases hwritten with
  | one => rfl
  | two low => omega
  | three low => omega
  | four low => omega

/-! ### Places in the bytes -/

/-- The place of the last byte that is this one, looked for from the right. -/
def lastPlace? (byte : Nat) (bs : List Nat) : Option Nat :=
  (bs.reverse.findIdx? (· == byte)).map (bs.length - 1 - ·)

theorem lastPlace?_eq_none {byte : Nat} {bs : List Nat} :
    lastPlace? byte bs = none ↔ byte ∉ bs := by
  rw [lastPlace?, Option.map_eq_none_iff, List.findIdx?_eq_none_iff]
  simp only [List.mem_reverse, beq_eq_false_iff_ne]
  constructor
  · intro h hmem
    exact h byte hmem rfl
  · rintro h b hb rfl
    exact h hb

theorem lastPlace?_append {byte : Nat} (before : List Nat) {after : List Nat} (h : byte ∉ after) :
    lastPlace? byte (before ++ byte :: after) = some before.length := by
  have hafter : after.reverse.findIdx? (· == byte) = none := by
    rw [List.findIdx?_eq_none_iff]
    intro b hb
    rw [beq_eq_false_iff_ne]
    rintro rfl
    exact h (List.mem_reverse.mp hb)
  rw [lastPlace?, List.reverse_append, List.reverse_cons, List.append_assoc, List.findIdx?_append,
    hafter, List.singleton_append, List.findIdx?_cons, beq_self_eq_true, if_pos rfl]
  simp only [Option.none_or, Option.map_some, List.length_reverse, List.length_append,
    List.length_cons, Option.some.injEq]
  omega

/-- An ASCII character is found at the end of the text before it, as no other character has its
byte. -/
theorem lastPlace?_bytes {mark : Char} (hmark : mark.toNat < 0x80) (before : String)
    {after : String} (h : mark ∉ after.toList) :
    lastPlace? mark.toNat (bytes (before ++ String.singleton mark ++ after)) =
      some before.utf8ByteSize := by
  have hbyte : bytes (String.singleton mark) = [mark.toNat] := by
    rw [bytes_eq, String.toList_singleton, List.flatMap_singleton, encode_ascii hmark]
  have hafter : mark.toNat ∉ bytes after := fun hmem => h ((mem_bytes hmark).mp hmem)
  rw [bytes_append, bytes_append, hbyte, List.append_assoc, List.singleton_append,
    lastPlace?_append _ hafter, length_bytes]

/-- What stands between two places of the bytes of a text. There is no such text where a place is
inside a character or behind the end, or where the places are the wrong way round. -/
def between? (s : String) (first last : Nat) : Option String :=
  match s.pos? ⟨first⟩, s.pos? ⟨last⟩ with
  | some p, some q => if p ≤ q then some (s.extract p q) else none
  | _, _ => none

theorem pos?_of_splits {s before after : String} {p : s.Pos} (h : p.Splits before after) :
    s.pos? ⟨before.utf8ByteSize⟩ = some p := by
  have hvalid : String.Pos.Raw.isValidForSlice s.toSlice p.offset = true :=
    String.Pos.Raw.isValidForSlice_eq_true_iff.mpr p.isValid.toSlice
  have hplace : p.offset = ⟨before.utf8ByteSize⟩ := h.offset_eq_rawEndPos
  rw [← hplace, String.pos?, String.Slice.pos?, dif_pos hvalid, Option.map_some]
  rfl

/-- Places that stand before and behind a part of a text have that part between them. -/
theorem between?_append (before part after : String) :
    between? (before ++ part ++ after) before.utf8ByteSize (before ++ part).utf8ByteSize =
      some part := by
  have hfirst := String.Pos.splits_ofEqAppend
    (show before ++ part ++ after = before ++ (part ++ after) from String.append_assoc)
  have hlast := String.Pos.splits_ofEqAppend
    (show before ++ part ++ after = (before ++ part) ++ after from rfl)
  obtain ⟨hle, hcopy⟩ := String.copy_slice_eq_iff_splits.mpr ⟨before, after, hfirst, hlast⟩
  rw [between?, pos?_of_splits hfirst, pos?_of_splits hlast]
  simp only
  rw [if_pos hle, String.extract_eq_copy_slice _ _ hle, hcopy]

end Signoff.Utf8
