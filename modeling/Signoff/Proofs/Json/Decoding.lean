import Mathlib
import Signoff.Proofs.Json.Fits

/-!
What decoders give. A document that was read from a text holds proper numbers only, and a decoder
goes no deeper into it than texts may nest; so what is made of the parts of a document has the
properties of what the decoders of the parts give.
-/

namespace Signoff

theorem map_ok {ε α β : Type} {x : Except ε α} {f : α → β} {b : β} :
    x.map f = .ok b ↔ ∃ a, x = .ok a ∧ f a = b := by
  cases x <;> simp [Except.map]

namespace Json.Decoder

variable {α β : Type}

/-- All that a decoder finds in sound documents has a property. -/
def Gives (d : Decoder α) (P : α → Prop) : Prop :=
  ∀ levels doc a, levels ≤ maxLevels → doc.Sound → d levels doc = .ok a → P a

/-- All that fields make of sound documents has a property. -/
def Fields.Gives (f : Fields α) (P : α → Prop) : Prop :=
  ∀ listed levels docs a, levels ≤ maxLevels → (∀ doc, some doc ∈ docs → doc.Sound) →
    f.build listed levels docs = .ok a → P a

/-- The value that stands in for a missing field has a property, if there is one. -/
def Absent.Gives (absent : Absent α) (P : α → Prop) : Prop :=
  match absent with
  | .refused => True
  | .default a | .missing a => P a

/-- A value that was read nests no deeper than texts may. -/
theorem gives_value : Gives value (Fits (maxLevels - 1)) := by
  intro levels doc v hlevels hdoc hread
  have hfits : Fits (levels - 1) v := fits_of_value hdoc hread
  exact hfits.mono (by omega)

theorem gives_object : Gives object fun members => Fits (maxLevels - 1) (.obj members) := by
  intro levels doc members hlevels hdoc hread
  unfold object at hread
  split at hread
  · obtain ⟨v, hv, hmembers⟩ := map_ok.mp hread
    have hfits := gives_value levels _ v hlevels hdoc hv
    -- what is read of an object is an object
    simp only [value, bind_ok] at hv
    obtain ⟨deeper, -, read, -, hv⟩ := hv
    split_ifs at hv
    cases hv
    rw [← hmembers]
    exact hfits
  · cases hread

theorem mem_of_mapM {f : α → Except Fault β} {as : List α} {bs : List β}
    (h : as.mapM f = .ok bs) {b : β} (hb : b ∈ bs) : ∃ a ∈ as, f a = .ok b := by
  induction as generalizing bs with
  | nil =>
    cases h
    cases hb
  | cons a as ih =>
    rw [List.mapM_cons, bind_ok] at h
    obtain ⟨c, hc, h⟩ := h
    obtain ⟨cs, hcs, ⟨⟩⟩ := bind_ok.mp h
    rcases List.mem_cons.mp hb with rfl | hb
    · exact ⟨a, List.mem_cons_self, hc⟩
    · obtain ⟨e, he, hread⟩ := ih hcs hb
      exact ⟨e, List.mem_cons_of_mem _ he, hread⟩

theorem Gives.list {d : Decoder α} {P : α → Prop} (h : d.Gives P) :
    d.list.Gives fun as => ∀ a ∈ as, P a := by
  intro levels doc as hlevels hdoc hread
  unfold Decoder.list at hread
  split at hread
  · next items closed =>
    simp only [bind_ok] at hread
    obtain ⟨deeper, hdeeper, xs, hxs, hread⟩ := hread
    obtain ⟨rfl, -⟩ := enter_ok hdeeper
    split_ifs at hread
    cases hread
    cases hdoc with
    | arr _ sound =>
      intro a ha
      obtain ⟨item, hitem, hread⟩ := mem_of_mapM hxs ha
      exact h deeper item a (by omega) (sound item hitem) hread
  · cases hread

/-! ### Records -/

theorem Fields.gives_of_forall (f : Fields α) {P : α → Prop} (h : ∀ a, P a) : f.Gives P :=
  fun _ _ _ a _ _ _ => h a

theorem Fields.gives_pure {P : α → Prop} {a : α} (h : P a) :
    Fields.Gives (Pure.pure a : Fields α) P := by
  rintro listed levels docs b - - ⟨⟩
  exact h

theorem Fields.Gives.seq {f : Fields (α → β)} {x : Fields α} {P : α → Prop} {Q : β → Prop}
    (hf : f.Gives fun g => ∀ a, P a → Q (g a)) (hx : x.Gives P) : Fields.Gives (f <*> x) Q := by
  intro listed levels docs b hlevels hdocs hbuild
  obtain ⟨g, hg, hbuild⟩ := bind_ok.mp hbuild
  obtain ⟨a, ha, ⟨⟩⟩ := bind_ok.mp hbuild
  -- the documents are shared out between the two, and each part is sound
  have htake := hf listed levels _ g hlevels
    (fun doc hdoc => hdocs doc (List.mem_of_mem_take hdoc)) hg
  have hdrop := hx listed levels _ a hlevels
    (fun doc hdoc => hdocs doc (List.mem_of_mem_drop hdoc)) ha
  exact htake a hdrop

theorem Fields.Gives.map {f : α → β} {x : Fields α} {P : β → Prop}
    (hx : x.Gives fun a => P (f a)) : Fields.Gives (f <$> x) P :=
  Fields.Gives.seq (f := Pure.pure f) (Fields.gives_pure fun _ h => h) hx

theorem Gives.field {d : Decoder α} {P : α → Prop} (h : d.Gives P) (names : List String)
    {absent : Absent α} (ha : absent.Gives P) : (field names d absent).Gives P := by
  intro listed levels docs a hlevels hdocs hbuild
  simp only [Decoder.field] at hbuild
  split at hbuild
  · next doc _ => exact h levels doc a hlevels (hdocs doc List.mem_cons_self) hbuild
  · -- nothing stands under the names
    cases absent with
    | refused => cases hbuild
    | default b =>
      cases hbuild
      exact ha
    | missing b =>
      dsimp only at hbuild
      split_ifs at hbuild
      cases hbuild
      exact ha

/-- What is filed is what was there, and members. -/
theorem sound_fileMembers {slots : List Slot} {levels : Nat} {members : List (String × Document)}
    {filed out : List (Option Document)} (h : fileMembers slots levels members filed = .ok out)
    (hmembers : ∀ m ∈ members, m.2.Sound) (hfiled : ∀ doc, some doc ∈ filed → doc.Sound) :
    ∀ doc, some doc ∈ out → doc.Sound := by
  induction members generalizing filed with
  | nil =>
    cases h
    exact hfiled
  | cons m rest ih =>
    obtain ⟨name, doc⟩ := m
    have hdoc : doc.Sound := hmembers _ List.mem_cons_self
    have hrest : ∀ m ∈ rest, m.2.Sound := fun m hm => hmembers m (List.mem_cons_of_mem _ hm)
    rw [fileMembers] at h
    split at h
    · exact ih h hrest hfiled
    · split_ifs at h
      split at h
      · exact ih h hrest hfiled
      · obtain ⟨-, -, h⟩ := bind_ok.mp h
        -- the member is put into its slot, beside what was filed before
        refine ih h hrest fun other hother => ?_
        rcases List.mem_or_eq_of_mem_set hother with hother | heq
        · exact hfiled other hother
        · cases heq
          exact hdoc

theorem sound_fileItems {levels : Nat} {slots : List Slot} {items : List Document}
    {out : List (Option Document)} (h : fileItems levels slots items = .ok out)
    (hitems : ∀ doc ∈ items, doc.Sound) : ∀ doc, some doc ∈ out → doc.Sound := by
  -- over the slots, with the items that are left for them
  induction slots generalizing items out with
  | nil =>
    cases h
    simp
  | cons slot slots ih =>
    cases items with
    | nil =>
      cases h
      simp
    | cons item rest =>
      rw [fileItems, bind_ok] at h
      obtain ⟨-, -, h⟩ := h
      obtain ⟨filed, hfiled, ⟨⟩⟩ := bind_ok.mp h
      have hrest := ih hfiled fun doc hdoc => hitems doc (List.mem_cons_of_mem _ hdoc)
      intro doc hdoc
      rcases List.mem_cons.mp hdoc with heq | hdoc
      · cases heq
        exact hitems item List.mem_cons_self
      · exact hrest doc hdoc

/-- A record has what its fields give, however it is written. -/
theorem Fields.Gives.record {f : Fields α} {P : α → Prop} (h : f.Gives P) :
    (record f).Gives P := by
  intro levels doc a hlevels hdoc hread
  unfold Decoder.record at hread
  split at hread
  · simp only [bind_ok] at hread
    obtain ⟨deeper, hdeeper, filed, hfiled, hread⟩ := hread
    obtain ⟨rfl, -⟩ := enter_ok hdeeper
    split_ifs at hread
    cases hdoc with
    | obj _ sound =>
      exact h false deeper filed a (by omega) (sound_fileMembers hfiled sound (by simp)) hread
  · simp only [bind_ok] at hread
    obtain ⟨deeper, hdeeper, filed, hfiled, hread⟩ := hread
    obtain ⟨rfl, -⟩ := enter_ok hdeeper
    split_ifs at hread
    all_goals obtain ⟨b, hb, ⟨⟩⟩ := bind_ok.mp hread
    cases hdoc with
    | arr _ sound => exact h true deeper filed _ (by omega) (sound_fileItems hfiled sound) hb
  · cases hread

/-- Texts hold sound documents. -/
theorem Gives.ofText {d : Decoder α} {P : α → Prop} (h : d.Gives P) {text : String} {a : α}
    (hread : d.ofText text = .ok a) : P a := by
  have hsound : (Document.ofText text).1.Sound :=
    (Document.sound_read (2 * text.toList.length + 4)).1 text.toList
  unfold Decoder.ofText at hread
  generalize Document.ofText text = read at hread hsound
  obtain ⟨doc, ended⟩ := read
  dsimp only at hread hsound
  split at hread
  · cases hread
  · next b hb =>
    split_ifs at hread
    cases hread
    exact h maxLevels doc a le_rfl hsound hb

end Json.Decoder
end Signoff
