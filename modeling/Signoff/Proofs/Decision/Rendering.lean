import Mathlib
import Signoff.Proofs.Text.Scan
import Signoff.Proofs.Text.Split
import Signoff.Rationale

/-!
Templates filled in. Where the placeholders of a template are is a matter of the template alone: no
two of them overlap, since a brace opens each and a brace closes it and there is none between. So a
template may be filled in at one of them and on either side of it apart, and what was put in stays
as it is, whatever it looks like.
-/

namespace Signoff

/-! ### Values at paths -/

/-- The value that names lead to, one after the other: members of objects and items of lists. -/
inductive Context.Reaches : Json → List String → Json → Prop
  | here (v : Json) : Reaches v [] v
  | member {members : Json.Object} {name : String} {names : List String} {v w : Json}
    (hname : Json.Object.get? members name = some v) (h : Reaches v names w) :
    Reaches (.obj members) (name :: names) w
  | item {items : List Json} {name : String} {names : List String} {i : Nat} {v w : Json}
    (hname : Context.index? name = some i) (hitem : items[i]? = some v) (h : Reaches v names w) :
    Reaches (.arr items) (name :: names) w

/-- The value at a path: names with dots between them, none of them empty. -/
def Context.At (ctx : Context) (path : String) (v : Json) : Prop :=
  ∃ names, names ≠ [] ∧ (∀ name ∈ names, name ≠ "" ∧ '.' ∉ name.toList) ∧
    ".".intercalate names = path ∧ Reaches (.obj ctx.values) names v

namespace Context

theorem follow?_eq_some {names : List String} {v w : Json} :
    follow? names v = some w ↔ Reaches v names w := by
  constructor
  · intro h
    -- along the path, from the value that is reached so far
    induction names generalizing v with
    | nil =>
      rw [follow?, Option.some.injEq] at h
      exact h ▸ .here v
    | cons name names ih =>
      obtain ⟨u, hu, hrest⟩ := Option.bind_eq_some_iff.mp h
      unfold child? at hu
      split at hu
      · exact .member hu (ih hrest)
      · obtain ⟨i, hi, hitem⟩ := Option.bind_eq_some_iff.mp hu
        exact .item hi hitem (ih hrest)
      · cases hu
  · intro h
    induction h with
    | here v => rfl
    | member hname _ ih => rw [follow?, child?, hname, Option.bind_some, ih]
    | item hname hitem _ ih =>
      rw [follow?, child?, hname, Option.bind_some, hitem, Option.bind_some, ih]

/-- The names of a path are those that make it up with dots between them. -/
theorem segmentsOf_iff {text : String} {names : List String} :
    FieldPath.isPath text = true ∧ FieldPath.segmentsOf text = names ↔
      names ≠ [] ∧ (∀ name ∈ names, name ≠ "" ∧ '.' ∉ name.toList) ∧
        ".".intercalate names = text := by
  have hdot : String.singleton '.' = "." := by decide
  constructor
  · rintro ⟨hpath, rfl⟩
    refine ⟨?_, ?_, hdot ▸ Text.intercalate_split '.' text⟩
    · rw [FieldPath.segmentsOf, Text.split, ne_eq, List.map_eq_nil_iff]
      exact Text.splitOn_ne_nil _ _
    · intro name hname
      have hfull := List.all_eq_true.mp hpath name hname
      obtain ⟨part, hpart, rfl⟩ := List.mem_map.mp hname
      refine ⟨by simpa using hfull, ?_⟩
      rw [String.toList_ofList]
      exact Text.not_mem_of_mem_splitOn hpart
  · rintro ⟨hne, hnames, rfl⟩
    have hsplit : FieldPath.segmentsOf (".".intercalate names) = names :=
      hdot ▸ Text.split_intercalate hne fun name hname => (hnames name hname).2
    refine ⟨?_, hsplit⟩
    rw [FieldPath.isPath, hsplit, List.all_eq_true]
    intro name hname
    simpa using (hnames name hname).1

theorem lookup?_eq_some {ctx : Context} {path : String} {v : Json} :
    ctx.lookup? path = some v ↔ ctx.At path v := by
  rw [lookup?, Option.bind_eq_some_iff]
  constructor
  · rintro ⟨field, hfield, hv⟩
    have htext := FieldPath.text_of_ofText? hfield
    obtain ⟨hne, hnames, hjoined⟩ := segmentsOf_iff.mp ⟨htext ▸ field.valid, rfl⟩
    refine ⟨_, hne, hnames, hjoined, ?_⟩
    rw [← htext]
    exact follow?_eq_some.mp hv
  · rintro ⟨names, hne, hnames, hjoined, hreaches⟩
    obtain ⟨hpath, hsegments⟩ := segmentsOf_iff.mpr ⟨hne, hnames, hjoined⟩
    refine ⟨⟨path, hpath⟩, dif_pos hpath, ?_⟩
    rw [resolve?, FieldPath.segments, hsegments]
    exact follow?_eq_some.mpr hreaches

end Context

namespace Rationale

/-! ### Placeholders -/

/-- A placeholder as it is written: a path in braces, with blanks around it or without. -/
inductive Slot (path : List Char) : List Char → Prop
  | mk (before after : List Char) (hpath : path ≠ []) (hchars : ∀ c ∈ path, isPathChar c = true)
    (hbefore : ∀ c ∈ before, Text.isBlank c = true) (hafter : ∀ c ∈ after, Text.isBlank c = true) :
    Slot path ('\x7b' :: (before ++ path ++ after ++ ['\x7d']))

/-- A template cut up from left to right: wherever a placeholder begins it is taken off, and
elsewhere one character is. -/
inductive Cut : List Char → List Piece → Prop
  | done : Cut [] []
  | char {c : Char} {rest : List Char} {ps : List Piece}
    (hnone : ∀ path written after, Slot path written → c :: rest ≠ written ++ after)
    (h : Cut rest ps) : Cut (c :: rest) (.char c :: ps)
  | slot {path written rest : List Char} {ps : List Piece} (hslot : Slot path written)
    (h : Cut rest ps) : Cut (written ++ rest) (.slot written path :: ps)

/-- What comes in the place of a piece. -/
inductive Fills (ctx : Context) : Piece → List Char → Prop
  | char (c : Char) : Fills ctx (.char c) [c]
  | text {written path : List Char} {s : String} (h : ctx.At (String.ofList path) (.str s)) :
    Fills ctx (.slot written path) s.toList
  | value {written path : List Char} {v : Json} (h : ctx.At (String.ofList path) v)
    (hv : ∀ s, v ≠ .str s) : Fills ctx (.slot written path) v.render.toList
  | nothing {written path : List Char} (h : ∀ v, ¬ ctx.At (String.ofList path) v) :
    Fills ctx (.slot written path) written

variable {s u v w path written rest : List Char} {ps : List Piece} {ctx : Context}

theorem not_blank_of_isPathChar {c : Char} (h : isPathChar c = true) : Text.isBlank c = false := by
  rw [Text.isBlank, Bool.or_eq_false_iff, Bool.or_eq_false_iff]
  simp only [isPathChar, Char.isAlphanum, Char.isAlpha, Char.isUpper, Char.isLower, Char.isDigit,
    Bool.or_eq_true, Bool.and_eq_true, decide_eq_true_eq, beq_iff_eq, UInt32.le_iff_toNat_le,
    ge_iff_le] at h
  change ((((65 ≤ c.toNat ∧ c.toNat ≤ 90) ∨ (97 ≤ c.toNat ∧ c.toNat ≤ 122)) ∨
    (48 ≤ c.toNat ∧ c.toNat ≤ 57)) ∨ c = '_') ∨ c = '.' at h
  -- they lie above the blanks of ASCII and below all other blanks
  have hrange : 32 < c.toNat ∧ c.toNat < 128 := by
    rcases h with (((h | h) | h) | rfl) | rfl
    · omega
    · omega
    · omega
    · decide
    · decide
  refine ⟨⟨?_, ?_⟩, ?_⟩
  · rw [beq_eq_false_iff_ne]
    rintro rfl
    exact absurd hrange.1 (by decide)
  · simp only [Bool.and_eq_false_iff, decide_eq_false_iff_not]
    omega
  · simp only [Bool.and_eq_false_iff, decide_eq_false_iff_not]
    omega

/-- Reading a placeholder finds it exactly where one is written. -/
theorem slot?_eq_some :
    slot? s = some (written, path, rest) ↔ Slot path written ∧ '\x7b' :: s = written ++ rest := by
  constructor
  · intro h
    simp only [slot?] at h
    split at h
    · next c cs rest' hpath hclose =>
      simp only [Option.some.injEq, Prod.mk.injEq] at h
      obtain ⟨rfl, rfl, rfl⟩ := h
      refine ⟨.mk _ _ (hpath ▸ List.cons_ne_nil c cs) (fun _ => List.mem_takeWhile_imp)
        (fun _ => List.mem_takeWhile_imp) (fun _ => List.mem_takeWhile_imp), ?_⟩
      -- put together again from the end
      have htail := @List.takeWhile_append_dropWhile _ Text.isBlank
        ((s.dropWhile Text.isBlank).dropWhile isPathChar)
      rw [hclose] at htail
      simp only [List.cons_append, List.append_assoc, List.nil_append, htail,
        List.takeWhile_append_dropWhile]
    · cases h
  · rintro ⟨hslot, hs⟩
    cases hslot with
    | mk before after hpath hchars hbefore hafter =>
    rw [List.cons_append, List.cons.injEq] at hs
    obtain ⟨-, rfl⟩ := hs
    obtain ⟨c, cs, rfl⟩ := List.exists_cons_of_ne_nil hpath
    have hclose : ∀ c ∈ ('\x7d' :: rest).head?, Text.isBlank c = false := by
      rintro _ ⟨⟩
      decide
    -- what follows the path is a blank or the brace that closes
    have hend : ∀ c ∈ (after ++ '\x7d' :: rest).head?, isPathChar c = false := by
      intro c hc
      cases after with
      | nil =>
        cases hc
        decide
      | cons a after =>
        cases hc
        by_contra hpathChar
        have hblank := not_blank_of_isPathChar (Bool.eq_true_of_not_eq_false hpathChar)
        rw [hafter c List.mem_cons_self] at hblank
        cases hblank
    have hstart : ∀ a ∈ (c :: cs ++ (after ++ '\x7d' :: rest)).head?, Text.isBlank a = false := by
      rintro _ ⟨⟩
      exact not_blank_of_isPathChar (hchars c List.mem_cons_self)
    have hs : before ++ c :: cs ++ after ++ ['\x7d'] ++ rest =
        before ++ (c :: cs ++ (after ++ '\x7d' :: rest)) := by simp
    simp only [hs, slot?, Text.takeWhile_run hbefore hstart, Text.dropWhile_run hbefore hstart,
      Text.takeWhile_run hchars hend, Text.dropWhile_run hchars hend,
      Text.takeWhile_run hafter hclose, Text.dropWhile_run hafter hclose]

/-- There is one brace that opens in a placeholder, and it comes first. -/
theorem Slot.eq_cons (h : Slot path written) :
    ∃ tail, written = '\x7b' :: tail ∧ '\x7b' ∉ tail := by
  have hbrace : Text.isBlank '\x7b' = false ∧ isPathChar '\x7b' = false := by decide
  cases h with
  | mk before after hpath hchars hbefore hafter =>
    refine ⟨_, rfl, ?_⟩
    intro hmem
    simp only [List.mem_append, List.mem_singleton] at hmem
    rcases hmem with ((h | h) | h) | h
    · exact Bool.false_ne_true (hbrace.1.symm.trans (hbefore _ h))
    · exact Bool.false_ne_true (hbrace.2.symm.trans (hchars _ h))
    · exact Bool.false_ne_true (hbrace.1.symm.trans (hafter _ h))
    · exact absurd h (by decide)

/-! ### Cutting up -/

theorem pieces_char {c : Char} (h : ∀ path written after, Slot path written →
    c :: rest ≠ written ++ after) : pieces (c :: rest) = .char c :: pieces rest := by
  rw [pieces]
  split
  · next hc =>
    split
    · next hread =>
      obtain ⟨hslot, heq⟩ := slot?_eq_some.mp hread
      exact absurd (hc ▸ heq) (h _ _ _ hslot)
    · rfl
  · rfl

theorem pieces_slot (h : Slot path written) :
    pieces (written ++ rest) = .slot written path :: pieces rest := by
  obtain ⟨tail, rfl, -⟩ := h.eq_cons
  have hread : slot? (tail ++ rest) = some ('\x7b' :: tail, path, rest) :=
    slot?_eq_some.mpr ⟨h, rfl⟩
  rw [List.cons_append, pieces, if_pos rfl]
  split
  · next hread' =>
    rw [hread, Option.some.injEq, Prod.mk.injEq, Prod.mk.injEq] at hread'
    obtain ⟨rfl, rfl, rfl⟩ := hread'
    rfl
  · next hread' =>
    rw [hread] at hread'
    cases hread'

theorem cut_pieces (s : List Char) : Cut s (pieces s) := by
  induction hlength : s.length using Nat.strong_induction_on generalizing s with
  | h n ih =>
    subst hlength
    cases s with
    | nil =>
      rw [pieces]
      exact .done
    | cons c rest =>
      by_cases hbegins : ∃ path written after, Slot path written ∧ c :: rest = written ++ after
      · obtain ⟨path, written, after, hslot, heq⟩ := hbegins
        have hshorter : after.length < (c :: rest).length := by
          obtain ⟨tail, rfl, -⟩ := hslot.eq_cons
          rw [heq, List.length_append, List.length_cons]
          omega
        rw [heq, pieces_slot hslot]
        exact .slot hslot (ih _ hshorter after rfl)
      · have hnone : ∀ path written after, Slot path written → c :: rest ≠ written ++ after :=
          fun path written after hslot heq => hbegins ⟨path, written, after, hslot, heq⟩
        rw [pieces_char hnone]
        exact .char hnone (ih _ (Nat.lt_succ_self _) rest rfl)

/-- The pieces of a template are the one way to cut it up. -/
theorem cut_iff : Cut s ps ↔ pieces s = ps := by
  constructor
  · intro h
    induction h with
    | done => rw [pieces]
    | char hnone _ ih => rw [pieces_char hnone, ih]
    | slot hslot _ ih => rw [pieces_slot hslot, ih]
  · rintro rfl
    exact cut_pieces s

/-- A placeholder stays one, whatever stands before it and behind it. -/
theorem pieces_append (h : Slot path written) :
    pieces (u ++ (written ++ v)) = pieces u ++ .slot written path :: pieces v := by
  have hcut := cut_pieces u
  generalize pieces u = ps at hcut ⊢
  induction hcut with
  | done => exact pieces_slot h
  | slot hslot _ ih => rw [List.append_assoc, pieces_slot hslot, ih, List.cons_append]
  | @char c rest ps hnone _ ih =>
    rw [List.cons_append, pieces_char, ih, List.cons_append]
    intro path' written' after hslot heq
    rw [← List.cons_append] at heq
    rcases List.append_eq_append_iff.mp heq with ⟨more, hwritten, hrest⟩ | ⟨more, hrest, -⟩
    · cases more with
      | nil => exact hnone path' written' [] hslot (by simpa using hwritten.symm)
      | cons a more =>
        -- it would run into the placeholder and hold a second brace that opens
        obtain ⟨tail, rfl, -⟩ := h.eq_cons
        obtain ⟨tail', rfl, htail'⟩ := hslot.eq_cons
        rw [List.cons_append, List.cons_append, List.cons.injEq] at hrest
        rw [List.cons_append, List.cons.injEq] at hwritten
        apply htail'
        rw [hwritten.2, hrest.1]
        exact List.mem_append_right _ List.mem_cons_self
    · exact hnone path' written' more hslot hrest

/-! ### Filling in -/

theorem valueText_of_ne {v : Json} (h : ∀ s, v ≠ .str s) : valueText v = v.render := by
  cases v with
  | str s => exact absurd rfl (h s)
  | _ => rfl

/-- What comes in the place of a piece is what the piece is filled with. -/
theorem fills_iff {p : Piece} {text : List Char} : Fills ctx p text ↔ p.fill ctx = text := by
  constructor
  · intro h
    cases h with
    | char c => rfl
    | text h =>
      rw [Piece.fill, Context.lookup?_eq_some.mpr h]
      rfl
    | value h hv =>
      rw [Piece.fill, Context.lookup?_eq_some.mpr h]
      dsimp only
      rw [valueText_of_ne hv]
    | @nothing written path h =>
      have hnone : ctx.lookup? (String.ofList path) = none :=
        Option.eq_none_iff_forall_ne_some.mpr fun v hv => h v (Context.lookup?_eq_some.mp hv)
      rw [Piece.fill, hnone]
  · rintro rfl
    cases p with
    | char c => exact .char c
    | slot written path =>
      rw [Piece.fill]
      cases hlookup : ctx.lookup? (String.ofList path) with
      | none =>
        apply Fills.nothing
        intro v hv
        rw [Context.lookup?_eq_some.mpr hv] at hlookup
        cases hlookup
      | some v =>
        have hv := Context.lookup?_eq_some.mp hlookup
        -- only a text is put in without its quotes
        by_cases htext : ∃ s, v = .str s
        · obtain ⟨s, rfl⟩ := htext
          exact .text hv
        · dsimp only
          rw [valueText_of_ne fun s hs => htext ⟨s, hs⟩]
          exact .value hv fun s hs => htext ⟨s, hs⟩

/-- A text is what a template becomes: the template is cut up, and every piece is filled in once. -/
def Renders (ctx : Context) (template text : String) : Prop :=
  ∃ parts texts, Cut template.toList parts ∧ List.Forall₂ (Fills ctx) parts texts ∧
    text = String.ofList texts.flatten

theorem forall₂_fills {parts : List Piece} {texts : List (List Char)} :
    List.Forall₂ (Fills ctx) parts texts ↔ parts.map (·.fill ctx) = texts := by
  have hfills : Fills ctx = fun p text => p.fill ctx = text := by
    funext p text
    exact propext fills_iff
  rw [hfills, ← List.forall₂_map_left_iff, List.forall₂_eq_eq_eq]

theorem renders_iff {template text : String} :
    Renders ctx template text ↔ text = render ctx template := by
  have hflat (parts : List Piece) :
      (parts.map (·.fill ctx)).flatten = parts.flatMap (·.fill ctx) := List.flatMap_def.symm
  constructor
  · rintro ⟨parts, texts, hcut, hfills, rfl⟩
    rw [← forall₂_fills.mp hfills, hflat, ← cut_iff.mp hcut, render]
  · rintro rfl
    refine ⟨_, _, cut_pieces template.toList, forall₂_fills.mpr rfl, ?_⟩
    rw [hflat, render]

/-- A template no placeholder of which leads to a value stays as it is. -/
theorem flatMap_fill (h : Cut s ps) (hnone : ∀ path written, Slot path written → written <:+: s →
    ∀ v, ¬ ctx.At (String.ofList path) v) : ps.flatMap (·.fill ctx) = s := by
  induction h with
  | done => rfl
  | @char c rest ps _ _ ih =>
    rw [List.flatMap_cons, ih, Piece.fill, List.singleton_append]
    exact fun path written hslot hwithin =>
      hnone path written hslot (hwithin.trans (List.suffix_cons c rest).isInfix)
  | @slot path written rest ps hslot _ ih =>
    rw [List.flatMap_cons, ih]
    · have hunresolved := hnone path written hslot (List.prefix_append written rest).isInfix
      rw [fills_iff.mp (.nothing hunresolved)]
    · exact fun path' written' hslot' hwithin => hnone path' written' hslot'
        (hwithin.trans (List.suffix_append written rest).isInfix)

/-- Filling in a template is a single pass. The text that a template becomes is the one that comes
of cutting it up from left to right, at every placeholder, and filling in every piece once; a
template no placeholder of which leads to a value stays as it is; and wherever a placeholder stands,
what comes before it and what comes behind it become what they become by themselves, whatever is put
in its place. -/
theorem render_single_pass (ctx : Context) (template : String) :
    (∀ text, Renders ctx template text ↔ text = render ctx template) ∧
    ((∀ path written, Slot path written → written <:+: template.toList →
      ∀ v, ¬ ctx.At (String.ofList path) v) → render ctx template = template) ∧
    ∀ before path written after text, Slot path written → Fills ctx (.slot written path) text →
      template = before ++ String.ofList written ++ after →
      render ctx template = render ctx before ++ String.ofList text ++ render ctx after := by
  refine ⟨fun text => renders_iff, ?_, ?_⟩
  · intro hnone
    rw [render, flatMap_fill (cut_pieces _) hnone, String.ofList_toList]
  · rintro before path written after text hslot hfills rfl
    rw [render, String.toList_append, String.toList_append, String.toList_ofList, List.append_assoc,
      pieces_append hslot, List.flatMap_append, List.flatMap_cons, fills_iff.mp hfills,
      String.ofList_append, String.ofList_append, ← String.append_assoc, render, render]

/-- A value that looks like a placeholder stays what it is. -/
example : render ⟨[("a", .str "\x7bb\x7d"), ("b", .int 1)], ""⟩
    "\x7b a \x7d, \x7bb\x7d, \x7bc\x7d, \x7b\x7bb\x7d" =
      "\x7bb\x7d, 1, \x7bc\x7d, \x7b1" := by
  decide +kernel

end Rationale
end Signoff
