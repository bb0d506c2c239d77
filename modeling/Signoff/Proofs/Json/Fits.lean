import Mathlib
import Signoff.Json.Decode
import Signoff.Proofs.Json.NumberText

/-!
The values that JSON text can hold: proper numbers, members in the order of their names, and no
more levels of lists and objects than a reader enters.
-/

namespace Signoff

theorem bind_ok {ε α β : Type} {x : Except ε α} {f : α → Except ε β} {b : β} :
    (x >>= f) = .ok b ↔ ∃ a, x = .ok a ∧ f a = .ok b := by
  cases x <;> simp [bind, Except.bind]

theorem map_error {ε α β : Type} {x : Except ε α} {f : α → β} {e : ε} :
    x.map f = .error e ↔ x = .error e := by
  cases x <;> simp [Except.map]

namespace Json

namespace Object

/-- Each name once, in order. -/
def Sorted (o : Object) : Prop := o.Pairwise fun m n => m.1 < n.1

theorem mem_of_get? {o : Object} {name : String} {v : Json} (h : get? o name = some v) :
    (name, v) ∈ o := by
  induction o with
  | nil => cases h
  | cons m rest ih =>
    obtain ⟨k, w⟩ := m
    rw [get?] at h
    split_ifs at h with hk
    · cases h
      rw [hk]
      exact List.mem_cons_self
    · exact List.mem_cons_of_mem _ (ih h)

theorem mem_insert {o : Object} {name : String} {v : Json} {m : String × Json}
    (h : m ∈ insert o name v) : m = (name, v) ∨ m ∈ o := by
  induction o with
  | nil => exact .inl (List.mem_singleton.mp h)
  | cons n rest ih =>
    obtain ⟨k, w⟩ := n
    rw [insert] at h
    split_ifs at h with hlt hk
    · exact List.mem_cons.mp h
    · rcases List.mem_cons.mp h with h | h
      · exact .inl h
      · exact .inr (List.mem_cons_of_mem _ h)
    · rcases List.mem_cons.mp h with h | h
      · exact .inr (List.mem_cons.mpr (.inl h))
      · exact (ih h).imp_right (List.mem_cons_of_mem _)

theorem Sorted.insert {o : Object} (h : Sorted o) (name : String) (v : Json) :
    Sorted (insert o name v) := by
  induction o with
  | nil => exact List.pairwise_singleton _ _
  | cons n rest ih =>
    obtain ⟨k, w⟩ := n
    obtain ⟨hfirst, hrest⟩ := List.pairwise_cons.mp h
    rw [Object.insert]
    split_ifs with hlt hk
    · refine List.pairwise_cons.mpr ⟨fun m hm => ?_, h⟩
      rcases List.mem_cons.mp hm with rfl | hm
      · exact hlt
      · exact hlt.trans (hfirst m hm)
    · subst hk
      exact List.pairwise_cons.mpr ⟨hfirst, hrest⟩
    · refine List.pairwise_cons.mpr ⟨fun m hm => ?_, ih hrest⟩
      rcases mem_insert hm with rfl | hm
      · exact lt_of_le_of_ne (not_lt.mp hlt) hk
      · exact hfirst m hm

theorem insert_last {o : Object} {name : String} (v : Json) (h : ∀ m ∈ o, m.1 < name) :
    insert o name v = o ++ [(name, v)] := by
  induction o with
  | nil => rfl
  | cons n rest ih =>
    obtain ⟨k, w⟩ := n
    have hk : k < name := h _ List.mem_cons_self
    rw [insert, if_neg hk.asymm, if_neg hk.ne, ih fun m hm => h m (List.mem_cons_of_mem _ hm),
      List.cons_append]

theorem ofList_concat (members : List (String × Json)) (m : String × Json) :
    ofList (members ++ [m]) = insert (ofList members) m.1 m.2 := by
  rw [ofList, List.foldl_append]
  rfl

theorem sorted_ofList (members : List (String × Json)) : Sorted (ofList members) := by
  induction members using List.reverseRecOn with
  | nil => exact List.Pairwise.nil
  | append_singleton members m ih =>
    rw [ofList_concat]
    exact ih.insert m.1 m.2

theorem mem_ofList {members : List (String × Json)} {m : String × Json} (h : m ∈ ofList members) :
    m ∈ members := by
  induction members using List.reverseRecOn with
  | nil => cases h
  | append_singleton members n ih =>
    rw [ofList_concat] at h
    rcases mem_insert h with rfl | h
    · exact List.mem_append_right _ List.mem_cons_self
    · exact List.mem_append_left _ (ih h)

theorem Sorted.ofList_eq {members : List (String × Json)} (h : Sorted members) :
    ofList members = members := by
  induction members using List.reverseRecOn with
  | nil => rfl
  | append_singleton members m ih =>
    obtain ⟨hinit, -, hlast⟩ := List.pairwise_append.mp h
    rw [ofList_concat, ih hinit, insert_last]
    exact fun n hn => hlast n hn m List.mem_cons_self

theorem get?_eq_none {o : Object} {name : String} (h : ∀ m ∈ o, m.1 ≠ name) :
    get? o name = none := by
  rw [Option.eq_none_iff_forall_ne_some]
  intro v hv
  exact h _ (mem_of_get? hv) rfl

theorem get?_cons_self (k : String) (v : Json) (rest : Object) :
    get? ((k, v) :: rest) k = some v :=
  if_pos rfl

/-- No name is there before the first. -/
theorem Sorted.get?_of_lt {k name : String} {v : Json} {rest : Object}
    (h : Sorted ((k, v) :: rest)) (hlt : name < k) : get? ((k, v) :: rest) name = none := by
  have hfirst := (List.pairwise_cons.mp h).1
  apply get?_eq_none
  intro m hm
  rcases List.mem_cons.mp hm with rfl | hm
  · exact hlt.ne'
  · exact (hlt.trans (hfirst m hm)).ne'

/-- Sorted objects with the same values under the same names are the same. -/
theorem Sorted.ext {a b : Object} (ha : Sorted a) (hb : Sorted b)
    (h : ∀ name, get? a name = get? b name) : a = b := by
  induction a generalizing b with
  | nil =>
    cases b with
    | nil => rfl
    | cons n rest =>
      have hn := h n.1
      rw [get?_cons_self] at hn
      cases hn
  | cons m as ih =>
    obtain ⟨k, v⟩ := m
    obtain ⟨hfirst, hrest⟩ := List.pairwise_cons.mp ha
    have hk := h k
    rw [get?_cons_self] at hk
    cases b with
    | nil => cases hk
    | cons n bs =>
      obtain ⟨l, w⟩ := n
      obtain ⟨hfirst', hrest'⟩ := List.pairwise_cons.mp hb
      -- the lesser of two different first names would be missing on the other side
      have hkl : k = l := by
        rcases lt_trichotomy k l with hlt | heq | hgt
        · rw [hb.get?_of_lt hlt] at hk
          cases hk
        · exact heq
        · have hl := h l
          rw [ha.get?_of_lt hgt, get?_cons_self] at hl
          cases hl
      subst hkl
      rw [get?_cons_self] at hk
      cases hk
      congr 1
      refine ih hrest hrest' fun name => ?_
      by_cases hname : k = name
      · subst hname
        rw [get?_eq_none fun m hm => (hfirst m hm).ne', get?_eq_none fun m hm => (hfirst' m hm).ne']
      · have hn := h name
        rwa [get?, get?, if_neg hname, if_neg hname] at hn

end Object

/-- A value all of whose objects are sorted. -/
inductive Ordered : Json → Prop
  | null : Ordered .null
  | bool (b : Bool) : Ordered (.bool b)
  | num (n : Number) : Ordered (.num n)
  | str (s : String) : Ordered (.str s)
  | arr {items : List Json} (items_ordered : ∀ a ∈ items, Ordered a) : Ordered (.arr items)
  | obj {members : Object} (sorted : members.Sorted)
      (members_ordered : ∀ m ∈ members, Ordered m.2) : Ordered (.obj members)

/-- A value that a reader with one more than this many levels left takes as it is. -/
inductive Fits : Nat → Json → Prop
  | null (levels : Nat) : Fits levels .null
  | bool (levels : Nat) (b : Bool) : Fits levels (.bool b)
  | num (levels : Nat) {n : Number} (proper : Document.Proper n) : Fits levels (.num n)
  | str (levels : Nat) (s : String) : Fits levels (.str s)
  | arr {levels : Nat} {items : List Json} (fit : ∀ a ∈ items, Fits levels a) :
      Fits (levels + 1) (.arr items)
  | obj {levels : Nat} {members : Object} (sorted : members.Sorted)
      (fit : ∀ m ∈ members, Fits levels m.2) : Fits (levels + 1) (.obj members)

theorem Fits.succ {levels : Nat} {v : Json} (h : Fits levels v) : Fits (levels + 1) v := by
  induction h with
  | null => exact .null _
  | bool _ b => exact .bool _ b
  | num _ proper => exact .num _ proper
  | str _ s => exact .str _ s
  | arr _ ih => exact .arr ih
  | obj sorted _ ih => exact .obj sorted ih

/-- The values that are read are ordered. -/
theorem Fits.ordered {levels : Nat} {v : Json} (h : Fits levels v) : v.Ordered := by
  induction h with
  | null => exact .null
  | bool _ b => exact .bool b
  | num _ _ => exact .num _
  | str _ s => exact .str s
  | arr _ ih => exact .arr ih
  | obj sorted _ ih => exact .obj sorted ih

theorem Fits.mono {m n : Nat} {v : Json} (h : Fits m v) (hle : m ≤ n) : Fits n v := by
  induction hle with
  | refl => exact h
  | step _ ih => exact ih.succ

theorem Fits.insert {levels : Nat} {o : Object} {v : Json} (h : Fits (levels + 1) (.obj o))
    (name : String) (hv : Fits levels v) : Fits (levels + 1) (.obj (o.insert name v)) := by
  cases h with
  | obj sorted fit =>
    refine .obj (sorted.insert name v) fun m hm => ?_
    rcases Object.mem_insert hm with rfl | hm
    · exact hv
    · exact fit m hm

theorem Fits.ofMembers {levels : Nat} {members : List (String × Json)}
    (h : ∀ m ∈ members, Fits levels m.2) : Fits (levels + 1) (ofMembers members) :=
  .obj (Object.sorted_ofList members) fun m hm => h m (Object.mem_ofList hm)

theorem Fits.ofText? (levels : Nat) (s : Option String) : Fits levels (ofText? s) := by
  cases s with
  | none => exact .null levels
  | some s => exact .str levels s

namespace Decoder

theorem enter_succ (levels : Nat) : enter (levels + 2) = .ok (levels + 1) := by
  rw [enter, if_neg (by omega)]
  rfl

theorem enter_ok {levels deeper : Nat} (h : enter levels = .ok deeper) :
    levels = deeper + 1 ∧ 0 < deeper := by
  unfold enter at h
  split_ifs at h
  cases h
  omega

theorem values_ofItems {levels : Nat} {items : List Json}
    (h : ∀ a ∈ items, value levels (.ofJson a) = .ok a) :
    values levels (Document.ofItems items) = .ok items := by
  induction items with
  | nil => rfl
  | cons a rest ih =>
    rw [Document.ofItems, values, h a List.mem_cons_self,
      ih fun b hb => h b (List.mem_cons_of_mem _ hb)]
    rfl

theorem memberValues_ofMembers {levels : Nat} {members : List (String × Json)}
    (h : ∀ m ∈ members, value levels (.ofJson m.2) = .ok m.2) :
    memberValues levels (Document.ofMembers members) = .ok members := by
  induction members with
  | nil => rfl
  | cons m rest ih =>
    have hfirst := h m List.mem_cons_self
    obtain ⟨k, v⟩ := m
    rw [Document.ofMembers, memberValues, hfirst, ih fun n hn => h n (List.mem_cons_of_mem _ hn)]
    rfl

/-- A value that fits is read out of the document that writes it. -/
theorem value_ofJson {levels : Nat} {v : Json} (h : Fits levels v) :
    value (levels + 1) (.ofJson v) = .ok v := by
  -- a list or an object takes one level for itself and leaves the rest to what is in it
  induction h with
  | null => rfl
  | bool => rfl
  | num => rfl
  | str => rfl
  | arr fit ih =>
    rw [Document.ofJson, value, bind_ok]
    refine ⟨_, enter_succ _, ?_⟩
    rw [bind_ok]
    exact ⟨_, values_ofItems ih, rfl⟩
  | obj sorted fit ih =>
    rw [Document.ofJson, value, bind_ok]
    refine ⟨_, enter_succ _, ?_⟩
    rw [bind_ok]
    refine ⟨_, memberValues_ofMembers ih, ?_⟩
    rw [if_pos rfl, Json.ofMembers, sorted.ofList_eq]

end Decoder

namespace Document

/-- All numbers in it are proper. -/
inductive Sound : Document → Prop
  | null : Sound .null
  | bool (b : Bool) : Sound (.bool b)
  | num {n : Number} (proper : Proper n) : Sound (.num n)
  | str (s : String) : Sound (.str s)
  | arr {items : List Document} (closed : Bool) (sound : ∀ d ∈ items, Sound d) :
      Sound (.arr items closed)
  | obj {members : List (String × Document)} (closed : Bool) (sound : ∀ m ∈ members, Sound m.2) :
      Sound (.obj members closed)
  | unreadable : Sound .unreadable
  | broken : Sound .broken

theorem sound_numberOf (negative : Bool) (whole fraction : List Char) (exponent : Option Int) :
    Sound (numberOf negative whole fraction exponent) := by
  unfold numberOf
  dsimp only
  generalize (if negative = true then -(digitsValue whole : Int) else digitsValue whole) = value
  split
  · split_ifs with hzero hbounds
    · exact .num (.real Double.representable_zero)
    · exact .num (.int hbounds.1 hbounds.2)
    · -- a whole number that is too large for one is rounded to a double
      split
      · next x hx => exact .num (.real (Double.representable_ofDecimal? hx))
      · exact .unreadable
  · split
    · next x hx => exact .num (.real (Double.representable_ofDecimal? hx))
    · exact .unreadable

theorem sound_readNumber {negative : Bool} {s rest : List Char} {d : Document}
    (h : readNumber negative s = some (d, rest)) : Sound d := by
  unfold readNumber at h
  dsimp only at h
  split_ifs at h
  simp only [Option.bind_eq_bind, Option.bind_eq_some_iff, Option.pure_def, Option.some.injEq,
    Prod.mk.injEq] at h
  obtain ⟨fraction, -, exponent, -, rfl, -⟩ := h
  exact sound_numberOf _ _ _ _

theorem sound_readScalar (s : List Char) : Sound (scalar (readScalar s)).1 := by
  cases h : readScalar s with
  | none => exact .broken
  | some read =>
    obtain ⟨d, rest⟩ := read
    change Sound d
    unfold readScalar at h
    split at h
    · simp only [Option.map_eq_some_iff, Prod.mk.injEq] at h
      obtain ⟨⟨text, r⟩, -, rfl, -⟩ := h
      cases text with
      | none => exact .unreadable
      | some t => exact .str t
    · exact sound_readNumber h
    · obtain ⟨r, -, ⟨⟩⟩ := Option.map_eq_some_iff.mp h
      exact .null
    · obtain ⟨r, -, ⟨⟩⟩ := Option.map_eq_some_iff.mp h
      exact .bool true
    · obtain ⟨r, -, ⟨⟩⟩ := Option.map_eq_some_iff.mp h
      exact .bool false
    · exact sound_readNumber h

/-- What is read of a text is sound, as are items and members. -/
theorem sound_read (steps : Nat) :
    (∀ s, Sound (readValue steps s).1) ∧ (∀ s, ∀ d ∈ (readItems steps s).1, Sound d) ∧
      ∀ s, ∀ m ∈ (readMembers steps s).1, Sound m.2 := by
  -- the three readers call each other with one step less, so they are taken together
  induction steps with
  | zero =>
    refine ⟨fun s => ?_, fun s d hd => ?_, fun s m hm => ?_⟩
    · rw [readValue]
      exact .broken
    · rw [readItems] at hd
      cases hd
    · rw [readMembers] at hm
      cases hm
  | succ steps ih =>
    obtain ⟨hvalue, hitems, hmembers⟩ := ih
    refine ⟨fun s => ?_, fun s d hd => ?_, fun s m hm => ?_⟩
    · rw [readValue]
      split
      · split
        · exact .arr true (by simp)
        · exact .arr _ (hitems _)
      · split
        · exact .obj true (by simp)
        · exact .obj _ (hmembers _)
      · exact sound_readScalar _
    · rw [readItems] at hd
      dsimp only at hd
      split at hd
      · rcases List.mem_cons.mp hd with rfl | hd
        · exact hvalue s
        · exact hitems _ d hd
      · rw [List.mem_singleton.mp hd]
        exact hvalue s
      · rw [List.mem_singleton.mp hd]
        exact hvalue s
    · rw [readMembers] at hm
      split at hm
      · split at hm
        · split at hm
          · dsimp only at hm
            split at hm
            · rcases List.mem_cons.mp hm with rfl | hm
              · exact hvalue _
              · exact hmembers _ m hm
            · rw [List.mem_singleton.mp hm]
              exact hvalue _
            · rw [List.mem_singleton.mp hm]
              exact hvalue _
          · rw [List.mem_singleton.mp hm]
            exact .broken
        · cases hm
      · cases hm

end Document

namespace Decoder

theorem mem_of_values {levels : Nat} {items : List Document} {as : List Json}
    (h : values levels items = .ok as) {a : Json} (ha : a ∈ as) :
    ∃ d ∈ items, value levels d = .ok a := by
  induction items generalizing as with
  | nil =>
    cases h
    cases ha
  | cons d rest ih =>
    simp only [values, bind_ok] at h
    obtain ⟨b, hb, bs, hbs, ⟨⟩⟩ := h
    rcases List.mem_cons.mp ha with rfl | ha
    · exact ⟨d, List.mem_cons_self, hb⟩
    · obtain ⟨e, he, hread⟩ := ih hbs ha
      exact ⟨e, List.mem_cons_of_mem _ he, hread⟩

theorem mem_of_memberValues {levels : Nat} {members : List (String × Document)}
    {read : List (String × Json)} (h : memberValues levels members = .ok read)
    {m : String × Json} (hm : m ∈ read) : ∃ d ∈ members, value levels d.2 = .ok m.2 := by
  induction members generalizing read with
  | nil =>
    cases h
    cases hm
  | cons d rest ih =>
    obtain ⟨k, d⟩ := d
    simp only [memberValues, bind_ok] at h
    obtain ⟨b, hb, bs, hbs, ⟨⟩⟩ := h
    rcases List.mem_cons.mp hm with rfl | hm
    · exact ⟨_, List.mem_cons_self, hb⟩
    · obtain ⟨e, he, hread⟩ := ih hbs hm
      exact ⟨e, List.mem_cons_of_mem _ he, hread⟩

/-- A value that is read fits as many levels as were left, less one. -/
theorem fits_of_value {d : Document} (hd : d.Sound) {levels : Nat} {v : Json}
    (h : value levels d = .ok v) : Fits (levels - 1) v := by
  -- the levels vary, since a list or an object is entered with one less
  induction hd generalizing levels v with
  | null =>
    cases h
    exact .null _
  | bool b =>
    cases h
    exact .bool _ b
  | num proper =>
    cases h
    exact .num _ proper
  | str s =>
    cases h
    exact .str _ s
  | arr closed _ ih =>
    simp only [value, bind_ok] at h
    obtain ⟨deeper, hdeeper, items, hitems, h⟩ := h
    obtain ⟨rfl, hpos⟩ := enter_ok hdeeper
    split_ifs at h
    cases h
    obtain ⟨n, rfl⟩ : ∃ n, deeper = n + 1 := ⟨deeper - 1, by omega⟩
    refine .arr fun a ha => ?_
    obtain ⟨d, hd, hread⟩ := mem_of_values hitems ha
    exact ih d hd hread
  | obj closed _ ih =>
    simp only [value, bind_ok] at h
    obtain ⟨deeper, hdeeper, members, hmembers, h⟩ := h
    obtain ⟨rfl, hpos⟩ := enter_ok hdeeper
    split_ifs at h
    cases h
    obtain ⟨n, rfl⟩ : ∃ n, deeper = n + 1 := ⟨deeper - 1, by omega⟩
    refine .ofMembers fun m hm => ?_
    obtain ⟨d, hd, hread⟩ := mem_of_memberValues hmembers hm
    exact ih d hd hread
  | unreadable => cases h
  | broken => cases h

end Decoder

/-- What a text holds fits. -/
theorem fits_of_parse? {text : String} {v : Json} (h : parse? text = some v) :
    Fits (maxLevels - 1) v := by
  have hsound : (Document.ofText text).1.Sound :=
    (Document.sound_read (2 * text.toList.length + 4)).1 text.toList
  unfold parse? Decoder.ofText at h
  generalize Document.ofText text = read at h hsound
  obtain ⟨d, ended⟩ := read
  dsimp only at h hsound
  cases hv : Decoder.value maxLevels d with
  | error e =>
    rw [hv] at h
    cases h
  | ok w =>
    rw [hv] at h
    dsimp only at h
    cases ended with
    | false => cases h
    | true =>
      cases h
      exact Decoder.fits_of_value hsound hv

end Json
end Signoff
