import Mathlib
import Signoff.Proofs.Condition.Order
import Signoff.Proofs.Decision.Mentions
import Signoff.Proofs.Double.Integers

/-!
Comparisons with now. The instant of a batch stands in every context as a text, and is read back out
of it to the nanosecond, with none, three, six or nine digits of a fraction. So whatever a field means
as an instant is tested against now as the two instants lie.
-/

namespace Signoff

namespace Instant

instance : LT Instant := ⟨fun s t => s.compare t = .lt⟩

instance : LE Instant := ⟨fun s t => s.compare t ≠ .gt⟩

instance (s t : Instant) : Decidable (s < t) := inferInstanceAs (Decidable (s.compare t = .lt))

instance (s t : Instant) : Decidable (s ≤ t) := inferInstanceAs (Decidable (s.compare t ≠ .gt))

theorem lt_def {s t : Instant} : s < t ↔ s.compare t = .lt := Iff.rfl

theorem le_def {s t : Instant} : s ≤ t ↔ s.compare t ≠ .gt := Iff.rfl

theorem le_refl (t : Instant) : t ≤ t := by
  rw [le_def, compare_self]
  decide

theorem isLT_compare (s t : Instant) : (s.compare t).isLT = decide (s < t) := by
  rw [Bool.eq_iff_iff, decide_eq_true_eq, lt_def]
  exact Ordering.isLT_iff_eq_lt

theorem isLE_compare (s t : Instant) : (s.compare t).isLE = decide (s ≤ t) := by
  rw [Bool.eq_iff_iff, decide_eq_true_eq, le_def]
  exact Ordering.isLE_iff_ne_gt

theorem isGT_compare (s t : Instant) : (s.compare t).isGT = decide (s > t) := by
  rw [Bool.eq_iff_iff, decide_eq_true_eq, gt_iff_lt, lt_def, ← compare_eq_gt]
  exact Ordering.isGT_iff_eq_gt

theorem isGE_compare (s t : Instant) : (s.compare t).isGE = decide (s ≥ t) := by
  rw [Bool.eq_iff_iff, decide_eq_true_eq, ge_iff_le, le_def, ne_eq, compare_eq_gt]
  exact Ordering.isGE_iff_ne_lt

/-! ### Reading what is written -/

theorem not_blank_of_mem_padded {width n : Nat} {c : Char} (h : c ∈ padded width n) :
    Text.isBlank c = false :=
  Double.not_blank_of_isDigit (isDigit_of_mem_padded h)

theorem not_blank_of_mem_fractionText {fraction : Fraction} {nanos : Nat} {c : Char}
    (h : c ∈ fractionText fraction nanos) : Text.isBlank c = false := by
  have hpoint {width n : Nat} (h : c ∈ '.' :: padded width n) : Text.isBlank c = false := by
    rcases List.mem_cons.mp h with rfl | h
    · decide
    · exact not_blank_of_mem_padded h
  unfold fractionText at h
  split at h
  · exact hpoint h
  · split_ifs at h
    · cases h
    · exact hpoint h
    · exact hpoint h
    · exact hpoint h

theorem not_blank_of_mem_chars {fraction : Fraction} {t : Instant} (ht : t.Sortable) {c : Char}
    (h : c ∈ t.chars fraction) : Text.isBlank c = false := by
  have hyear : yearText t.year = padded 4 t.year.toNat := by rw [yearText, if_pos ht.year]
  rw [chars] at h
  simp only [hyear, List.mem_append, List.mem_cons, List.not_mem_nil, or_false] at h
  -- digits, the fraction, and the marks between them
  rcases h with ((((((h | rfl | h) | rfl | h) | rfl | h) | rfl | h) | rfl | h) | h) | rfl
  all_goals first
    | decide
    | exact not_blank_of_mem_padded h
    | exact not_blank_of_mem_fractionText h

/-- The text of an instant means that instant. -/
theorem ofText?_text {t : Instant} (h : t.Sortable) : ofText? t.text = some t := by
  have htrim : Text.trimChars (t.chars .asNeeded) = t.chars .asNeeded :=
    Double.trimChars_of_not_blank fun c hc => not_blank_of_mem_chars h hc
  rw [ofText?, text, String.toList_ofList, htrim, strict?_chars .asNeeded h]
  rfl

end Instant

namespace Context

/-- What a record has under a name that is not reserved is there to be seen. -/
theorem get?_ofRecord {r : Record} {name : String} {v : Json} (hname : name ∉ reserved)
    (h : r.attributes.get? name = some v) (now : Instant) :
    Json.Object.get? (ofRecord r now).values name = some v := by
  have hnow : name ≠ nowName := by
    rintro rfl
    exact hname (by decide)
  have hrecord : name ≠ "record_id" := by
    rintro rfl
    exact hname (by decide)
  have hvalues : Json.Object.get? (r.attributes.insert "record_id" (.str r.id)) name = some v := by
    rw [Json.Object.get?_insert_of_ne _ _ hrecord, h]
  rw [ofRecord, ofValues]
  dsimp only
  rw [Json.Object.get?_insert_of_ne _ _ hnow]
  split
  · next domain hdomain =>
    -- a domain is put in only where there was none
    have hsender : name ≠ "sender_domain" := by
      rintro rfl
      rw [derivedDomain?, Json.Object.contains, hvalues, Option.isSome_some, if_pos rfl] at hdomain
      cases hdomain
    rw [Json.Object.get?_insert_of_ne _ _ hsender, hvalues]
  · exact hvalues

/-- A path into the attributes leads to the same value in what is seen of the record. -/
theorem resolve?_ofRecord {r : Record} {field : FieldPath} {v : Json}
    (hname : ∀ name ∈ field.segments.head?, name ∉ reserved)
    (h : follow? field.segments (.obj r.attributes) = some v) (now : Instant) :
    (ofRecord r now).resolve? field = some v := by
  obtain ⟨name, rest, hsegments⟩ := List.exists_cons_of_ne_nil field.segments_ne_nil
  have hfirst : name ∉ reserved := by
    apply hname
    rw [hsegments]
    rfl
  rw [hsegments, follow?, child?] at h
  obtain ⟨w, hw, hrest⟩ := Option.bind_eq_some_iff.mp h
  rw [resolve?, hsegments, follow?, child?, get?_ofRecord hfirst hw now]
  exact hrest

/-- The field that every context has. -/
def nowField : FieldPath := ⟨nowName, by decide⟩

theorem resolve?_nowField (values : Json.Object) (now : Instant) :
    (ofValues values now).resolve? nowField = some (.str now.text) := by
  have hsegments : nowField.segments = [nowName] := by decide
  rw [resolve?, hsegments, follow?, child?, ofValues, Json.Object.get?_insert_self]
  rfl

theorem operand_now (values : Json.Object) (now : Instant) :
    (ofValues values now).operand (.str nowName) = .str now.text := by
  rw [operand, if_pos rfl, ofValues]

/-- Named values with an instant put in. -/
def IsAt (ctx : Context) (t : Instant) : Prop := ∃ values, ctx = ofValues values t

theorem isAt_ofRecord (r : Record) (t : Instant) : (ofRecord r t).IsAt t := ⟨_, rfl⟩

end Context

namespace Condition

/-- The tests of a field against now are answered as one instant lies to another, and none of them
counts an anomaly. -/
structure LiesTo (ctx : Context) (field : FieldPath) (i t : Instant) : Prop where
  lt : ∀ trace, evaluateTraced ctx (.leaf field (.lt (.text "now"))) trace =
    (decide (i < t), trace)
  lte : ∀ trace, evaluateTraced ctx (.leaf field (.lte (.text "now"))) trace =
    (decide (i ≤ t), trace)
  gt : ∀ trace, evaluateTraced ctx (.leaf field (.gt (.text "now"))) trace =
    (decide (i > t), trace)
  gte : ∀ trace, evaluateTraced ctx (.leaf field (.gte (.text "now"))) trace =
    (decide (i ≥ t), trace)
  eq : ∀ trace, evaluateTraced ctx (.leaf field (.eq (.str "now"))) trace =
    (decide (i = t), trace)

/-- A test that is answered leaves the count of anomalies as it was. -/
theorem evaluateTraced_leaf {ctx : Context} {field : FieldPath} {v : Json} {test : Test} {b : Bool}
    (hfield : ctx.resolve? field = some v) (htest : test.operator ≠ .present)
    (h : testVerdict ctx v test = .is b) (trace : Trace) :
    evaluateTraced ctx (.leaf field test) trace = (b, trace) := by
  rw [evaluateTraced, leafVerdict_some hfield htest, h]
  rfl

theorem liesTo_of_resolve? {ctx : Context} {field : FieldPath} {s : String} {i t : Instant}
    (ht : t.Sortable) (hctx : ctx.IsAt t) (hfield : ctx.resolve? field = some (.str s))
    (hs : Instant.ofText? s = some i) : LiesTo ctx field i t := by
  obtain ⟨values, rfl⟩ := hctx
  have hnow : Instant.ofText? t.text = some t := Instant.ofText?_text ht
  have hoperand : (Context.ofValues values t).operand (.str "now") = .str t.text :=
    Context.operand_now values t
  have hcompare : compare? (.str s) (.str t.text) = some (i.compare t) :=
    compare?_eq_some.mpr (.instants hs hnow)
  have hordered (accept : Ordering → Bool) :
      ordered (.ofValues values t) (.str s) (.text "now") accept = .is (accept (i.compare t)) := by
    rw [ordered, Bound.toJson, hoperand, hcompare]
    rfl
  -- one comparison decides the four tests of order; equality has its own
  constructor
  · apply evaluateTraced_leaf hfield (by simp [Test.operator])
    rw [testVerdict, hordered, Instant.isLT_compare]
  · apply evaluateTraced_leaf hfield (by simp [Test.operator])
    rw [testVerdict, hordered, Instant.isLE_compare]
  · apply evaluateTraced_leaf hfield (by simp [Test.operator])
    rw [testVerdict, hordered, Instant.isGT_compare]
  · apply evaluateTraced_leaf hfield (by simp [Test.operator])
    rw [testVerdict, hordered, Instant.isGE_compare]
  · apply evaluateTraced_leaf hfield (by simp [Test.operator])
    have hsame : sameText s t.text = decide (i = t) := by
      rw [Bool.eq_iff_iff, decide_eq_true_eq]
      exact sameText_of_instants hs hnow
    rw [testVerdict, hoperand, looseEq, hsame]

/-- Comparisons with now are exact to the nanosecond in a batch of the years that four digits write:
the text of the instant means that instant again, a text that means an instant is tested as it lies
to the one of the batch, and the field `now` is neither before it nor after it. All that a record has
is there to be tested but what it has under a reserved name. -/
theorem now_exact {t : Instant} (ht : t.Sortable) :
    Instant.ofText? t.text = some t ∧
      (∀ (ctx : Context) (field : FieldPath) (s : String) (i : Instant), ctx.IsAt t →
        ctx.resolve? field = some (.str s) → Instant.ofText? s = some i → LiesTo ctx field i t) ∧
      (∀ (r : Record) (field : FieldPath) (s : String) (i : Instant),
        (∀ name ∈ field.segments.head?, name ∉ Context.reserved) →
        Context.follow? field.segments (.obj r.attributes) = some (.str s) →
        Instant.ofText? s = some i → LiesTo (.ofRecord r t) field i t) ∧
      ∀ (ctx : Context) (trace : Trace), ctx.IsAt t →
        evaluateTraced ctx (.leaf Context.nowField (.eq (.str "now"))) trace = (true, trace) ∧
        evaluateTraced ctx (.leaf Context.nowField (.lte (.text "now"))) trace = (true, trace) ∧
        evaluateTraced ctx (.leaf Context.nowField (.gte (.text "now"))) trace = (true, trace) := by
  have hnow : Instant.ofText? t.text = some t := Instant.ofText?_text ht
  refine ⟨hnow, ?_, ?_, ?_⟩
  · intro ctx field s i hctx hfield hs
    exact liesTo_of_resolve? ht hctx hfield hs
  · intro r field s i hname hfield hs
    exact liesTo_of_resolve? ht (Context.isAt_ofRecord r t) (Context.resolve?_ofRecord hname hfield t)
      hs
  · intro ctx trace hctx
    have hfield : ctx.resolve? Context.nowField = some (.str t.text) := by
      obtain ⟨values, rfl⟩ := hctx
      exact Context.resolve?_nowField values t
    have hself : LiesTo ctx Context.nowField t t := liesTo_of_resolve? ht hctx hfield hnow
    have hle : t ≤ t := Instant.le_refl t
    refine ⟨?_, ?_, ?_⟩
    · rw [hself.eq, decide_eq_true rfl]
    · rw [hself.lte, decide_eq_true hle]
    · rw [hself.gte, decide_eq_true hle]

/-- A deadline that ends a nanosecond before the batch, given with one digit of a fraction. -/
theorem now_exact_sample :
    let t : Instant := ⟨2026, 60, 43200, 700000001⟩
    let ctx := Context.ofRecord ⟨"r", [("expires_at", .str "2026-03-01T12:00:00.7Z")]⟩ t
    let expires : FieldPath := ⟨"expires_at", by decide⟩
    t.Sortable ∧ Instant.ofText? t.text = some t ∧
      evaluateTraced ctx (.leaf expires (.lt (.text "now"))) .zero = (true, .zero) ∧
      evaluateTraced ctx (.leaf expires (.gte (.text "now"))) .zero = (false, .zero) ∧
      evaluateTraced ctx (.leaf expires (.eq (.str "now"))) .zero = (false, .zero) ∧
      evaluateTraced ctx (.leaf Context.nowField (.eq (.str "now"))) .zero = (true, .zero) := by
  intro t ctx expires
  have ht : t.Sortable := ⟨⟨by decide, by decide, by decide⟩, by decide⟩
  obtain ⟨htext, -, hrecord, hfield⟩ := now_exact ht
  have hexpires : LiesTo ctx expires ⟨2026, 60, 43200, 700000000⟩ t := by
    have hsegments : expires.segments = ["expires_at"] := by decide
    apply hrecord _ _ "2026-03-01T12:00:00.7Z"
    · decide
    · rw [hsegments]
      rfl
    · decide +kernel
  refine ⟨ht, htext, ?_, ?_, ?_, (hfield ctx .zero (Context.isAt_ofRecord _ t)).1⟩
  · rw [hexpires.lt]
    decide
  · rw [hexpires.gte]
    decide
  · rw [hexpires.eq]
    decide

end Condition

end Signoff
