import Mathlib
import Signoff.Json.Printer
import Signoff.Proofs.Json.Fits

/-!
JSON text is read back as the value that it writes: text in quotes, numbers, lists and objects,
within the steps that a text of its length is given.
-/

namespace Signoff.Json

namespace Document

theorem hexValues?_control :
    ∀ n < 32, hexValues? '0' '0' (hexDigit (n / 16)) (hexDigit (n % 16)) = some n := by
  decide

theorem readQuoted_plain {c : Char} (hquote : c ≠ '"') (hslash : c ≠ '\\') (hc : 32 ≤ c.toNat)
    (q : Quoted) (rest : List Char) : readQuoted q (c :: rest) = readQuoted (q.push c) rest := by
  rw [readQuoted]
  · rw [if_neg (by omega)]
  · exact fun h => absurd h hquote
  · exact fun _ _ _ _ _ h _ => absurd h hslash
  · exact fun _ _ h => absurd h hslash

theorem readQuoted_escapeChar (c : Char) (before rest : List Char) :
    readQuoted ⟨some before, none⟩ (escapeChar c ++ rest) =
      readQuoted ⟨some (c :: before), none⟩ rest := by
  unfold escapeChar
  split
  · rfl
  · rfl
  · rfl
  · rfl
  · rfl
  · rfl
  · rfl
  · rename_i hquote hslash _ _ _ _ _
    split_ifs with hc
    · have hunit : Char.ofNat c.toNat = c := Char.ofNat_toNat c
      change readQuoted _ ('\\' :: 'u' :: '0' :: '0' :: _ :: _ :: rest) = _
      rw [readQuoted, hexValues?_control c.toNat hc]
      dsimp only [Quoted.pushUnit]
      rw [if_neg (by omega), if_neg (by omega), hunit]
      rfl
    · exact readQuoted_plain hquote hslash (by omega) _ rest

/-- Characters in quotes are read up to the closing quote. -/
theorem readQuoted_escaped (characters before rest : List Char) :
    readQuoted ⟨some before, none⟩ (characters.flatMap escapeChar ++ '"' :: rest) =
      some (⟨some (characters.reverse ++ before), none⟩, rest) := by
  induction characters generalizing before with
  | nil => rfl
  | cons c characters ih =>
    rw [List.flatMap_cons, List.append_assoc, readQuoted_escapeChar, ih, List.reverse_cons,
      List.append_assoc, List.singleton_append]

theorem toList_quote (s : String) :
    (quote s).toList = '"' :: (s.toList.flatMap escapeChar ++ ['"']) := by
  rw [quote, String.toList_ofList]

theorem readString_escaped (s : String) (rest : List Char) :
    readString (s.toList.flatMap escapeChar ++ '"' :: rest) = some (some s, rest) := by
  rw [readString, readQuoted_escaped, List.append_nil]
  simp only [Option.map_some, Quoted.text?, List.reverse_reverse, String.ofList_toList]

theorem ne_of_isDigit {c d : Char} (hc : isDigit c = true) (hd : isDigit d = false) : c ≠ d := by
  rintro rfl
  rw [hc] at hd
  cases hd

theorem readScalar_digit {c : Char} (hc : isDigit c = true) (s : List Char) :
    readScalar (c :: s) = readNumber false (c :: s) := by
  unfold readScalar
  split
  · rename_i h
    exact absurd (List.cons.inj h).1 (ne_of_isDigit hc rfl)
  · rename_i h
    exact absurd (List.cons.inj h).1 (ne_of_isDigit hc rfl)
  · rename_i h
    exact absurd (List.cons.inj h).1 (ne_of_isDigit hc rfl)
  · rename_i h
    exact absurd (List.cons.inj h).1 (ne_of_isDigit hc rfl)
  · rename_i h
    exact absurd (List.cons.inj h).1 (ne_of_isDigit hc rfl)
  · rfl

/-- A character that a value can start with: no blank, and none that closes a list. -/
structure Starts (c : Char) : Prop where
  notBlank : isBlank c = false
  notClosing : c ≠ ']'

theorem skipBlank_of_notBlank {c : Char} (hc : isBlank c = false) (s : List Char) :
    skipBlank (c :: s) = c :: s :=
  List.dropWhile_cons_of_neg (by rw [hc]; decide)

theorem Starts.of_isDigit {c : Char} (h : isDigit c = true) : Starts c := by
  refine ⟨?_, ne_of_isDigit h rfl⟩
  simp only [isBlank, Bool.or_eq_false_iff, beq_eq_false_iff_ne]
  exact ⟨⟨⟨ne_of_isDigit h rfl, ne_of_isDigit h rfl⟩, ne_of_isDigit h rfl⟩, ne_of_isDigit h rfl⟩

/-- A text that is read as a document, whatever follows that ends a number. -/
structure Writes (d : Document) (s : List Char) : Prop where
  starts : ∃ c rest, s = c :: rest ∧ Starts c
  reads (steps : Nat) (rest : List Char) (hsteps : 2 * s.length ≤ steps) (hrest : EndsNumber rest) :
    readValue steps (s ++ rest) = (d, some rest)

theorem Writes.scalar {d : Document} {c : Char} {s : List Char} (hc : Starts c) (hlist : c ≠ '[')
    (hobject : c ≠ '\x7b')
    (hread : ∀ rest, EndsNumber rest → readScalar (c :: s ++ rest) = some (d, rest)) :
    Writes d (c :: s) := by
  refine ⟨⟨c, s, rfl, hc⟩, fun steps rest hsteps hrest => ?_⟩
  obtain ⟨steps, rfl⟩ : ∃ n, steps = n + 1 := ⟨steps - 1, by rw [List.length_cons] at hsteps; omega⟩
  rw [readValue, List.cons_append, skipBlank_of_notBlank hc.notBlank]
  split
  · rename_i h
    exact absurd (List.cons.inj h).1 hlist
  · rename_i h
    exact absurd (List.cons.inj h).1 hobject
  · rw [← List.cons_append, hread rest hrest]
    rfl

theorem writes_number {n : Number} (hn : Proper n) : Writes (.num n) n.text.toList := by
  obtain ⟨negative, body, htext, hread⟩ := text_number hn
  rw [htext]
  cases negative with
  | true =>
    exact .scalar ⟨rfl, by decide⟩ (by decide) (by decide) hread
  | false =>
    obtain ⟨c, s, rfl, hc⟩ : ∃ c s, body = c :: s ∧ isDigit c = true := by
      have h := hread [] (by rintro _ ⟨⟩)
      rw [List.append_nil] at h
      exact head_of_readNumber h
    refine .scalar (.of_isDigit hc) (ne_of_isDigit hc rfl) (ne_of_isDigit hc rfl)
      fun rest hrest => ?_
    rw [List.cons_append, readScalar_digit hc, ← List.cons_append, hread rest hrest]

theorem writes_string (s : String) : Writes (.str s) (quote s).toList := by
  rw [toList_quote]
  refine .scalar ⟨rfl, by decide⟩ (by decide) (by decide) fun rest _ => ?_
  rw [List.cons_append, List.append_assoc, List.singleton_append, readScalar, readString_escaped]
  rfl

theorem endsNumber_cons {c : Char} (hc : isDigit c = false ∧ c ≠ '.' ∧ c ≠ 'e' ∧ c ≠ 'E')
    (rest : List Char) : EndsNumber (c :: rest) := by
  rintro _ ⟨⟩
  exact hc

theorem readItems_render {a : Json} {items : List Json}
    (h : ∀ b ∈ a :: items, Writes (ofJson b) (render b).toList) (steps : Nat) (rest : List Char)
    (hsteps : 2 * (renderItems (a :: items)).toList.length + 1 ≤ steps) :
    readItems steps ((renderItems (a :: items)).toList ++ ']' :: rest) =
      (ofItems (a :: items), some rest) := by
  -- an item takes a step, and two steps come with each of its characters
  obtain ⟨steps, rfl⟩ : ∃ n, steps = n + 1 := ⟨steps - 1, by omega⟩
  have ha := h a List.mem_cons_self
  induction items generalizing a steps with
  | nil =>
    rw [renderItems] at hsteps ⊢
    rw [readItems, ha.reads steps _ (by omega) (endsNumber_cons (by decide) _)]
    rfl
  | cons b items ih =>
    have hb : ∀ c ∈ b :: items, Writes (ofJson c) (render c).toList := fun c hc =>
      h c (List.mem_cons_of_mem _ hc)
    have hcomma : ",".toList = [','] := rfl
    rw [renderItems, String.toList_append, String.toList_append, hcomma] at hsteps ⊢
    simp only [List.length_append, List.length_cons, List.length_nil] at hsteps
    obtain ⟨steps, rfl⟩ : ∃ n, steps = n + 1 := ⟨steps - 1, by omega⟩
    rw [List.append_assoc, List.append_assoc, List.singleton_append, readItems,
      ha.reads (steps + 1) _ (by omega) (endsNumber_cons (by decide) _)]
    have hrest := ih hb steps (by omega) (hb b List.mem_cons_self)
    dsimp only [Option.map_some]
    rw [skipBlank_of_notBlank rfl]
    change (_ :: (readItems (steps + 1) _).1, (readItems (steps + 1) _).2) = _
    rw [hrest]
    rfl

theorem readMembers_last {steps : Nat} {s rest : List Char} {d : Document} (name : String)
    (h : readValue steps s = (d, some ('\x7d' :: rest))) :
    readMembers (steps + 1) ((quote name).toList ++ ':' :: s) = ([(name, d)], some rest) := by
  have hname := readString_escaped name (':' :: s)
  have hcolon : skipBlank (':' :: s) = ':' :: s := skipBlank_of_notBlank rfl s
  rw [toList_quote, List.cons_append, List.append_assoc, List.singleton_append, readMembers,
    skipBlank_of_notBlank rfl]
  simp only [hname, hcolon, h]
  rfl

theorem readMembers_more {steps : Nat} {s rest : List Char} {d : Document} (name : String)
    (h : readValue steps s = (d, some (',' :: rest))) :
    readMembers (steps + 1) ((quote name).toList ++ ':' :: s) =
      ((name, d) :: (readMembers steps rest).1, (readMembers steps rest).2) := by
  have hname := readString_escaped name (':' :: s)
  have hcolon : skipBlank (':' :: s) = ':' :: s := skipBlank_of_notBlank rfl s
  rw [toList_quote, List.cons_append, List.append_assoc, List.singleton_append, readMembers,
    skipBlank_of_notBlank rfl]
  simp only [hname, hcolon, h]
  rfl

theorem readMembers_render {m : String × Json} {members : List (String × Json)}
    (h : ∀ n ∈ m :: members, Writes (ofJson n.2) (render n.2).toList) (steps : Nat)
    (rest : List Char) (hsteps : 2 * (renderMembers (m :: members)).toList.length + 1 ≤ steps) :
    readMembers steps ((renderMembers (m :: members)).toList ++ '\x7d' :: rest) =
      (ofMembers (m :: members), some rest) := by
  obtain ⟨steps, rfl⟩ : ∃ n, steps = n + 1 := ⟨steps - 1, by omega⟩
  have hm := h m List.mem_cons_self
  have hcolon : ":".toList = [':'] := rfl
  have hcomma : ",".toList = [','] := rfl
  -- the name and the value are taken apart first, so that the hypothesis speaks of any of them
  obtain ⟨k, v⟩ := m
  dsimp only at hm
  induction members generalizing k v steps with
  | nil =>
    rw [renderMembers, String.toList_append, String.toList_append, hcolon] at hsteps ⊢
    simp only [List.length_append, List.length_cons, List.length_nil] at hsteps
    have hv := hm.reads steps ('\x7d' :: rest) (by omega)
      (endsNumber_cons (by decide) _)
    rw [List.append_assoc, List.append_assoc, List.singleton_append, readMembers_last k hv]
    rfl
  | cons n members ih =>
    obtain ⟨l, w⟩ := n
    have hn : ∀ c ∈ (l, w) :: members, Writes (ofJson c.2) (render c.2).toList := fun c hc =>
      h c (List.mem_cons_of_mem _ hc)
    rw [renderMembers, String.toList_append, String.toList_append, String.toList_append,
      String.toList_append, hcolon, hcomma] at hsteps ⊢
    simp only [List.length_append, List.length_cons, List.length_nil] at hsteps
    obtain ⟨steps, rfl⟩ : ∃ n, steps = n + 1 := ⟨steps - 1, by omega⟩
    have hv := hm.reads (steps + 1) (',' :: ((renderMembers ((l, w) :: members)).toList ++
      '\x7d' :: rest))
      (by omega) (endsNumber_cons (by decide) _)
    simp only [List.append_assoc, List.cons_append, List.nil_append]
    have hrest := ih steps l w hn (by omega) (hn _ List.mem_cons_self)
    rw [readMembers_more k hv, hrest]
    rfl

theorem starts_renderItems {a : Json}
    (h : ∃ c s, (render a).toList = c :: s ∧ Starts c) (items : List Json) :
    ∃ c s, (renderItems (a :: items)).toList = c :: s ∧ Starts c := by
  obtain ⟨c, s, htext, hc⟩ := h
  cases items with
  | nil => exact ⟨c, s, htext, hc⟩
  | cons b items =>
    rw [renderItems, String.toList_append, String.toList_append, htext]
    exact ⟨c, _, rfl, hc⟩

theorem starts_renderMembers (m : String × Json) (members : List (String × Json)) :
    ∃ s, (renderMembers (m :: members)).toList = '"' :: s := by
  cases members with
  | nil =>
    rw [renderMembers, String.toList_append, String.toList_append, toList_quote]
    exact ⟨_, rfl⟩
  | cons n members =>
    rw [renderMembers, String.toList_append, String.toList_append, String.toList_append,
      String.toList_append, toList_quote]
    exact ⟨_, rfl⟩

theorem readValue_list {c : Char} (hc : Starts c) (steps : Nat) (s : List Char) :
    readValue (steps + 1) ('[' :: c :: s) =
      (.arr (readItems steps (c :: s)).1 (readItems steps (c :: s)).2.isSome,
        (readItems steps (c :: s)).2) := by
  have hskip : skipBlank (c :: s) = c :: s := skipBlank_of_notBlank hc.notBlank s
  rw [readValue, skipBlank_of_notBlank rfl]
  simp only [hskip]
  split
  · rename_i h
    exact absurd (List.cons.inj h).1 hc.notClosing
  · rfl

theorem readValue_object (steps : Nat) (s : List Char) :
    readValue (steps + 1) ('\x7b' :: '"' :: s) =
      (.obj (readMembers steps ('"' :: s)).1 (readMembers steps ('"' :: s)).2.isSome,
        (readMembers steps ('"' :: s)).2) := by
  have hskip : skipBlank ('"' :: s) = '"' :: s := skipBlank_of_notBlank rfl s
  rw [readValue, skipBlank_of_notBlank rfl]
  simp only [hskip]
  rfl

/-- What is rendered of a value that fits is read as its document. -/
theorem writes_render {levels : Nat} {v : Json} (h : Fits levels v) :
    Writes (ofJson v) (render v).toList := by
  -- on how the value fits: what is in a list or an object is read with the steps that are left
  induction h with
  | null =>
    exact .scalar ⟨rfl, by decide⟩ (by decide) (by decide) fun rest _ => rfl
  | bool _ b =>
    cases b
    · exact .scalar ⟨rfl, by decide⟩ (by decide) (by decide) fun rest _ => rfl
    · exact .scalar ⟨rfl, by decide⟩ (by decide) (by decide) fun rest _ => rfl
  | num _ proper => exact writes_number proper
  | str _ s => exact writes_string s
  | @arr _ items _ ih =>
    have hopen : "[".toList = ['['] := rfl
    have hclose : "]".toList = [']'] := rfl
    rw [render, String.toList_append, String.toList_append, hopen, hclose]
    refine ⟨⟨'[', _, rfl, ⟨rfl, by decide⟩⟩, fun steps rest hsteps _ => ?_⟩
    simp only [List.length_append, List.length_cons, List.length_nil] at hsteps
    obtain ⟨steps, rfl⟩ : ∃ n, steps = n + 1 := ⟨steps - 1, by omega⟩
    simp only [List.append_assoc, List.cons_append, List.nil_append]
    cases items with
    | nil => rfl
    | cons a items =>
      have hitems := readItems_render ih steps rest (by omega)
      obtain ⟨c, s, htext, hc⟩ := starts_renderItems (ih a List.mem_cons_self).starts items
      rw [htext, List.cons_append] at hitems ⊢
      rw [readValue_list hc, hitems]
      rfl
  | @obj _ members _ _ ih =>
    have hopen : "\x7b".toList = ['\x7b'] := rfl
    have hclose : "\x7d".toList = ['\x7d'] := rfl
    rw [render, String.toList_append, String.toList_append, hopen, hclose]
    refine ⟨⟨'\x7b', _, rfl, ⟨rfl, by decide⟩⟩, fun steps rest hsteps _ => ?_⟩
    simp only [List.length_append, List.length_cons, List.length_nil] at hsteps
    obtain ⟨steps, rfl⟩ : ∃ n, steps = n + 1 := ⟨steps - 1, by omega⟩
    simp only [List.append_assoc, List.cons_append, List.nil_append]
    cases members with
    | nil => rfl
    | cons m members =>
      have hmembers := readMembers_render ih steps rest (by omega)
      obtain ⟨s, htext⟩ := starts_renderMembers m members
      rw [htext, List.cons_append] at hmembers ⊢
      rw [readValue_object, hmembers]
      rfl

theorem ofText_render {levels : Nat} {v : Json} (h : Fits levels v) :
    ofText v.render = (ofJson v, true) := by
  have hread := (writes_render h).reads (2 * v.render.toList.length + 4) [] (by omega)
    (by rintro _ ⟨⟩)
  rw [List.append_nil] at hread
  rw [ofText]
  dsimp only
  rw [hread]
  rfl

end Document

/-- Text and value: what fits a reader comes back. -/
theorem parse?_render {v : Json} (h : Fits (maxLevels - 1) v) : parse? v.render = some v := by
  have hvalue : Decoder.value maxLevels (.ofJson v) = .ok v := Decoder.value_ofJson h
  unfold parse? Decoder.ofText
  rw [Document.ofText_render h]
  dsimp only
  rw [hvalue]
  rfl

namespace Decoder

/-- What was read with this many levels is the value that was written, and fits them. -/
def Faithful (levels : Nat) (v : Json) : Prop :=
  ∀ w, value levels (.ofJson v) = .ok w → w = v ∧ Fits (levels - 1) v

theorem values_faithful {levels : Nat} {items as : List Json}
    (h : ∀ a ∈ items, Faithful levels a) (hread : values levels (Document.ofItems items) = .ok as) :
    as = items ∧ ∀ a ∈ items, Fits (levels - 1) a := by
  induction items generalizing as with
  | nil =>
    cases hread
    simp
  | cons a rest ih =>
    simp only [Document.ofItems, values, bind_ok] at hread
    obtain ⟨b, hb, bs, hbs, ⟨⟩⟩ := hread
    obtain ⟨rfl, hfits⟩ := h a List.mem_cons_self b hb
    obtain ⟨rfl, hrest⟩ := ih (fun b hb => h b (List.mem_cons_of_mem _ hb)) hbs
    exact ⟨rfl, List.forall_mem_cons.mpr ⟨hfits, hrest⟩⟩

theorem memberValues_faithful {levels : Nat} {members read : List (String × Json)}
    (h : ∀ m ∈ members, Faithful levels m.2)
    (hread : memberValues levels (Document.ofMembers members) = .ok read) :
    read = members ∧ ∀ m ∈ members, Fits (levels - 1) m.2 := by
  induction members generalizing read with
  | nil =>
    cases hread
    simp
  | cons m rest ih =>
    have hfirst := h m List.mem_cons_self
    obtain ⟨k, v⟩ := m
    simp only [Document.ofMembers, memberValues, bind_ok] at hread
    obtain ⟨b, hb, bs, hbs, ⟨⟩⟩ := hread
    obtain ⟨rfl, hfits⟩ := hfirst b hb
    obtain ⟨rfl, hrest⟩ := ih (fun n hn => h n (List.mem_cons_of_mem _ hn)) hbs
    exact ⟨rfl, List.forall_mem_cons.mpr ⟨hfits, hrest⟩⟩

theorem faithful_of_fits {n : Nat} {v : Json} (h : Fits n v) (levels : Nat) :
    Faithful levels v := by
  intro w hread
  -- on how the value fits; each list and each object takes one of the levels that are left
  induction h generalizing levels w with
  | null =>
    cases hread
    exact ⟨rfl, .null _⟩
  | bool _ b =>
    cases hread
    exact ⟨rfl, .bool _ b⟩
  | num _ proper =>
    cases hread
    exact ⟨rfl, .num _ proper⟩
  | str _ s =>
    cases hread
    exact ⟨rfl, .str _ s⟩
  | arr fit ih =>
    simp only [Document.ofJson, value, bind_ok, if_true] at hread
    obtain ⟨deeper, hdeeper, items, hitems, hread⟩ := hread
    obtain ⟨rfl, hpos⟩ := enter_ok hdeeper
    cases hread
    obtain ⟨rfl, hfits⟩ := values_faithful (fun a ha => ih a ha deeper) hitems
    obtain ⟨left, rfl⟩ := Nat.exists_eq_succ_of_ne_zero hpos.ne'
    exact ⟨rfl, .arr hfits⟩
  | obj sorted fit ih =>
    simp only [Document.ofJson, value, bind_ok, if_true] at hread
    obtain ⟨deeper, hdeeper, members, hmembers, hread⟩ := hread
    obtain ⟨rfl, hpos⟩ := enter_ok hdeeper
    cases hread
    obtain ⟨rfl, hfits⟩ := memberValues_faithful (fun m hm => ih m hm deeper) hmembers
    obtain ⟨left, rfl⟩ := Nat.exists_eq_succ_of_ne_zero hpos.ne'
    exact ⟨by rw [ofMembers, sorted.ofList_eq], .obj sorted hfits⟩

end Decoder

/-- What is nested deeper than a reader goes does not come back at all. -/
theorem parse?_render_of_not_fits {n : Nat} {v : Json} (h : Fits n v)
    (hdeep : ¬ Fits (maxLevels - 1) v) : parse? v.render = none := by
  have hrefused : ∀ w, Decoder.value maxLevels (.ofJson v) ≠ .ok w := by
    intro w hw
    exact hdeep (Decoder.faithful_of_fits h maxLevels w hw).2
  unfold parse? Decoder.ofText
  rw [Document.ofText_render h]
  dsimp only
  cases hread : Decoder.value maxLevels (.ofJson v) with
  | error e => rfl
  | ok w => exact absurd hread (hrefused w)

end Signoff.Json
