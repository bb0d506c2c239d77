import Mathlib
import Signoff.Proofs.Decision.FirstMatch

/-!
What decisions depend on. A decision looks at the attributes that the policies mention, in the fields
of their tests and in the placeholders of their templates, and at those that summaries keep. Two
records that agree on them are decided alike, whatever else they hold.
-/

namespace Signoff

/-- The names that a context gives a meaning of its own, whatever a record has under them. -/
def Context.reserved : List String := ["now", "record_id"]

/-- A record without attributes of reserved names. -/
def Record.unreserved (r : Record) : Record :=
  ⟨r.id, r.attributes.filter fun m => decide (m.1 ∉ Context.reserved)⟩

/-- A condition tests a field whose path begins with the name. -/
inductive Condition.Mentions (name : String) : Condition → Prop where
  | all {cs : List Condition} {c : Condition} (hc : c ∈ cs) (h : Mentions name c) :
    Mentions name (.all cs)
  | any {cs : List Condition} {c : Condition} (hc : c ∈ cs) (h : Mentions name c) :
    Mentions name (.any cs)
  | not {c : Condition} (h : Mentions name c) : Mentions name (.not c)
  | leaf {field : FieldPath} {test : Test} (h : field.segments.head? = some name) :
    Mentions name (.leaf field test)

/-- A template has a placeholder whose path begins with the name. -/
def Rationale.Inserts (name template : String) : Prop :=
  ∃ written path, Piece.slot written path ∈ pieces template.toList ∧
    ∃ field, FieldPath.ofText? (String.ofList path) = some field ∧ field.segments.head? = some name

/-- A policy mentions the name in its condition or in its template. -/
def Policy.Mentions (name : String) (p : Policy) : Prop :=
  p.body.condition.Mentions name ∨ Rationale.Inserts name p.body.rationale

/-- The names of the attributes that decisions may depend on. -/
def Decision.Mentioned (floor : Floor) (ps : List Policy) (name : String) : Prop :=
  name ∈ Snapshot.summaryFields ∨ ∃ p ∈ ps, p.Eligible floor ∧ p.Mentions name

namespace Json.Object

/-- A member put into two objects leaves them alike under a name, when they were alike before under
every other one. -/
theorem get?_insert_congr {o o' : Object} {name key : String} (v : Json)
    (h : name ≠ key → get? o name = get? o' name) :
    get? (insert o key v) name = get? (insert o' key v) name := by
  by_cases hname : name = key
  · rw [hname, get?_insert_self, get?_insert_self]
  · rw [get?_insert_of_ne o v hname, get?_insert_of_ne o' v hname]
    exact h hname

theorem get?_filter {o : Object} (keep : String → Bool) {name : String} (h : keep name = true) :
    get? (o.filter fun m => keep m.1) name = get? o name := by
  induction o with
  | nil => rfl
  | cons m rest ih =>
    obtain ⟨k, v⟩ := m
    rw [List.filter_cons]
    by_cases hk : k = name
    · have hkeep : keep k = true := by rw [hk, h]
      rw [if_pos hkeep, get?, get?, if_pos hk, if_pos hk]
    · -- whether the member stays or goes, it is not the one that is looked for
      split
      · rw [get?, get?, if_neg hk, if_neg hk]
        exact ih
      · rw [get?, if_neg hk]
        exact ih

end Json.Object

theorem Record.get?_unreserved (r : Record) {name : String} (h : name ∉ Context.reserved) :
    r.unreserved.attributes.get? name = r.attributes.get? name :=
  Json.Object.get?_filter (fun n => decide (n ∉ Context.reserved)) (decide_eq_true h)

/-- Contexts that cannot be told apart by the names in a set. -/
structure Context.Agree (names : String → Prop) (ctx ctx' : Context) : Prop where
  stamp : ctx.stamp = ctx'.stamp
  values : ∀ name, names name → Json.Object.get? ctx.values name = Json.Object.get? ctx'.values name

namespace Context.Agree

variable {names : String → Prop} {ctx ctx' : Context} (h : Agree names ctx ctx')

include h

/-- What a path leads to depends on the first name of the path alone. -/
theorem resolve? {field : FieldPath}
    (hfield : ∀ name, field.segments.head? = some name → names name) :
    ctx.resolve? field = ctx'.resolve? field := by
  obtain ⟨name, rest, hsegments⟩ := List.exists_cons_of_ne_nil field.segments_ne_nil
  have hname : names name := by
    apply hfield
    rw [hsegments, List.head?_cons]
  rw [Context.resolve?, Context.resolve?, hsegments, follow?, follow?, child?, child?,
    h.values name hname]

theorem lookup? {path : String} (hpath : ∀ field, FieldPath.ofText? path = some field →
    ∀ name, field.segments.head? = some name → names name) :
    ctx.lookup? path = ctx'.lookup? path := by
  rw [Context.lookup?, Context.lookup?]
  apply Option.bind_congr
  intro field hfield
  exact h.resolve? (hpath field hfield)

theorem operand (v : Json) : ctx.operand v = ctx'.operand v := by
  cases v with
  | str s => rw [Context.operand, Context.operand, h.stamp]
  | _ => rfl

theorem testVerdict (v : Json) (test : Test) :
    Condition.testVerdict ctx v test = Condition.testVerdict ctx' v test := by
  cases test <;> simp only [Condition.testVerdict, Condition.ordered, h.operand]

theorem leafVerdict {field : FieldPath} (test : Test)
    (hfield : ∀ name, field.segments.head? = some name → names name) :
    Condition.leafVerdict ctx field test = Condition.leafVerdict ctx' field test := by
  rw [Condition.leafVerdict.eq_def, Condition.leafVerdict.eq_def, h.resolve? hfield]
  simp only [h.testVerdict]

omit h

mutual

/-- Evaluating a condition looks at nothing but the names that the condition tests. -/
theorem evaluateTraced (h : Agree names ctx ctx') : ∀ (c : Condition) (t : Trace),
    (∀ name, c.Mentions name → names name) → c.evaluateTraced ctx t = c.evaluateTraced ctx' t
  | .all cs, t, hc => by
    rw [Condition.evaluateTraced, Condition.evaluateTraced]
    exact evaluateAll h cs t fun c hmem name hmentions => hc name (.all hmem hmentions)
  | .any cs, t, hc => by
    rw [Condition.evaluateTraced, Condition.evaluateTraced]
    exact evaluateAny h cs t fun c hmem name hmentions => hc name (.any hmem hmentions)
  | .not c, t, hc => by
    rw [Condition.evaluateTraced, Condition.evaluateTraced,
      evaluateTraced h c t fun name hmentions => hc name (.not hmentions)]
  | .leaf field test, t, hc => by
    rw [Condition.evaluateTraced, Condition.evaluateTraced,
      h.leafVerdict test fun name hname => hc name (.leaf hname)]

theorem evaluateAll (h : Agree names ctx ctx') : ∀ (cs : List Condition) (t : Trace),
    (∀ c ∈ cs, ∀ name, c.Mentions name → names name) →
      Condition.evaluateAll ctx cs t = Condition.evaluateAll ctx' cs t
  | [], t, _ => rfl
  | c :: cs, t, hcs => by
    obtain ⟨hc, hrest⟩ := List.forall_mem_cons.mp hcs
    rw [Condition.evaluateAll, Condition.evaluateAll, evaluateTraced h c t hc]
    -- both go on from the same value and the same trace, or both stop
    simp only [evaluateAll h cs _ hrest]

theorem evaluateAny (h : Agree names ctx ctx') : ∀ (cs : List Condition) (t : Trace),
    (∀ c ∈ cs, ∀ name, c.Mentions name → names name) →
      Condition.evaluateAny ctx cs t = Condition.evaluateAny ctx' cs t
  | [], t, _ => rfl
  | c :: cs, t, hcs => by
    obtain ⟨hc, hrest⟩ := List.forall_mem_cons.mp hcs
    rw [Condition.evaluateAny, Condition.evaluateAny, evaluateTraced h c t hc]
    simp only [evaluateAny h cs _ hrest]

end

include h

/-- A template is filled in from the names of its placeholders. -/
theorem render {template : String} (ht : ∀ name, Rationale.Inserts name template → names name) :
    Rationale.render ctx template = Rationale.render ctx' template := by
  have hpiece : ∀ piece ∈ Rationale.pieces template.toList,
      piece.fill ctx = piece.fill ctx' := by
    intro piece hmem
    cases piece with
    | char c => rfl
    | slot written path =>
      have hlookup : ctx.lookup? (String.ofList path) = ctx'.lookup? (String.ofList path) := by
        apply h.lookup?
        intro field hfield name hname
        exact ht name ⟨written, path, hmem, field, hfield, hname⟩
      rw [Rationale.Piece.fill, Rationale.Piece.fill, hlookup]
  rw [Rationale.render, Rationale.render, List.flatMap_congr hpiece]

theorem snapshot (recordId : String) (hsummary : ∀ name ∈ Snapshot.summaryFields, names name) :
    Snapshot.ofContext recordId ctx = Snapshot.ofContext recordId ctx' := by
  have hlookup : ∀ name ∈ Snapshot.summaryFields, ctx.lookup? name = ctx'.lookup? name := by
    intro name hname
    apply h.lookup?
    intro field hfield first hfirst
    -- the names that summaries keep have no dots, so that each is the first name of its path
    have hsegments : FieldPath.segmentsOf name = [name] := by
      have hall : ∀ n ∈ Snapshot.summaryFields, FieldPath.segmentsOf n = [n] := by decide
      exact hall name hname
    rw [FieldPath.segments, FieldPath.text_of_ofText? hfield, hsegments, List.head?_cons,
      Option.some.injEq] at hfirst
    rw [← hfirst]
    exact hsummary name hname
  have hmembers : (Snapshot.summaryFields.filterMap fun name =>
        (ctx.lookup? name).map fun v => (name, v)) =
      Snapshot.summaryFields.filterMap fun name =>
        (ctx'.lookup? name).map fun v => (name, v) := by
    apply List.filterMap_congr
    intro name hname
    rw [hlookup name hname]
  rw [Snapshot.ofContext, Snapshot.ofContext, hmembers]

/-- A policy makes the same of contexts that agree on what it inserts and on what summaries keep. -/
theorem ofPolicy (recordId : String) {p : Policy}
    (hsummary : ∀ name ∈ Snapshot.summaryFields, names name)
    (ht : ∀ name, Rationale.Inserts name p.body.rationale → names name) :
    Match.ofPolicy recordId ctx p = Match.ofPolicy recordId ctx' p := by
  have hrationale : Rationale.ofPolicy ctx p.body.name p.body.priority p.body.rationale =
      Rationale.ofPolicy ctx' p.body.name p.body.priority p.body.rationale := by
    rw [Rationale.ofPolicy, Rationale.ofPolicy, h.render ht]
  rw [Match.ofPolicy, Match.ofPolicy, h.snapshot recordId hsummary, hrationale]

theorem scan {floor : Floor} {ps : List Policy} (t : Trace)
    (hps : ∀ p ∈ ps, floor.Allows p.body.confidence →
      ∀ name, p.body.condition.Mentions name → names name) :
    Decision.scan floor ctx ps t = Decision.scan floor ctx' ps t := by
  induction ps generalizing t with
  | nil => rfl
  | cons p rest ih =>
    obtain ⟨hp, hrest⟩ := List.forall_mem_cons.mp hps
    rw [Decision.scan, Decision.scan]
    cases hexceeds : floor.exceeds p.body.confidence with
    | true =>
      -- not sure enough: passed over, whatever its condition mentions
      rw [if_pos rfl, if_pos rfl]
      exact ih t hrest
    | false =>
      rw [h.evaluateTraced p.body.condition t (hp (Floor.exceeds_eq_false.mp hexceeds))]
      simp only [ih _ hrest]

end Context.Agree

namespace Decision

/-- The policy that is found is one of those that may speak. -/
theorem eligible_of_scan {floor : Floor} {ctx : Context} {ps : List Policy} {p : Policy} {t : Trace}
    (h : (scan floor ctx (Policy.inForce ps) t).1 = some p) : p ∈ ps ∧ p.Eligible floor := by
  rw [scan_filter, ← eligible] at h
  rcases scan_cases ctx (eligible floor ps) t with
    ⟨-, hscan⟩ | ⟨before, q, after, hsplit, -, -, hscan⟩
  · rw [hscan] at h
    cases h
  · rw [hscan] at h
    cases h
    apply mem_eligible.mp
    rw [hsplit]
    exact List.mem_append_right before List.mem_cons_self

/-- Contexts that agree on all that may matter are decided alike. -/
theorem decide_congr {floor : Floor} {ps : List Policy} {ctx ctx' : Context}
    (h : ctx.Agree (Mentioned floor ps) ctx') (recordId : String) :
    decide floor recordId ctx (Policy.inForce ps) =
      decide floor recordId ctx' (Policy.inForce ps) := by
  have hscan : scan floor ctx (Policy.inForce ps) .zero =
      scan floor ctx' (Policy.inForce ps) .zero := by
    apply h.scan
    intro p hp hsure name hmentions
    obtain ⟨hmem, henabled⟩ := Policy.mem_inForce.mp hp
    exact .inr ⟨p, hmem, ⟨henabled, hsure⟩, .inl hmentions⟩
  have hfound : (scan floor ctx (Policy.inForce ps) .zero).1.map (Match.ofPolicy recordId ctx) =
      (scan floor ctx (Policy.inForce ps) .zero).1.map (Match.ofPolicy recordId ctx') := by
    apply Option.map_congr
    intro p hp
    -- only the template of the policy that was found is filled in
    obtain ⟨hmem, heligible⟩ := eligible_of_scan hp
    apply h.ofPolicy recordId
    · intro name hname
      exact .inl hname
    · intro name hinserts
      exact .inr ⟨p, hmem, heligible, .inr hinserts⟩
  rw [hscan] at hfound
  simp only [decide, hscan, hfound]

end Decision

namespace Context

/-- The domain is taken from attributes that summaries keep. -/
theorem derivedDomain?_congr {values values' : Json.Object}
    (h : ∀ name ∈ Snapshot.summaryFields, values.get? name = values'.get? name) :
    derivedDomain? values = derivedDomain? values' := by
  have hdomain := h "sender_domain" (by decide)
  have hsender := h "sender" (by decide)
  rw [derivedDomain?, derivedDomain?, Json.Object.contains, Json.Object.contains, hdomain, hsender]

/-- What is seen of two records agrees where their attributes do, and under the reserved names. -/
theorem ofRecord_agree {names : String → Prop} {r r' : Record} (hid : r.id = r'.id)
    (hsummary : ∀ name ∈ Snapshot.summaryFields, names name)
    (h : ∀ name, names name → name ∉ reserved →
      r.attributes.get? name = r'.attributes.get? name) (now : Instant) :
    Agree names (ofRecord r now) (ofRecord r' now) := by
  let values := r.attributes.insert "record_id" (.str r.id)
  let values' := r'.attributes.insert "record_id" (.str r'.id)
  have hvalues : ∀ name, names name → name ≠ "now" → values.get? name = values'.get? name := by
    intro name hname hnow
    simp only [values, values', hid]
    apply Json.Object.get?_insert_congr
    intro hrecord
    exact h name hname (by simp [reserved, hnow, hrecord])
  have hdomain : derivedDomain? values = derivedDomain? values' := by
    apply derivedDomain?_congr
    intro name hname
    have hnow : ∀ n ∈ Snapshot.summaryFields, n ≠ "now" := by decide
    exact hvalues name (hsummary name hname) (hnow name hname)
  refine ⟨rfl, ?_⟩
  intro name hname
  -- the instant is put in last, so that an attribute of its name is gone by then
  apply Json.Object.get?_insert_congr
  intro hnow
  simp only [hdomain, values, values']
  cases derivedDomain? values' with
  | none => exact hvalues name hname hnow
  | some domain =>
    apply Json.Object.get?_insert_congr
    intro _
    exact hvalues name hname hnow

end Context

namespace Decision

/-- Records of one identifier that agree on the attributes that may matter are decided alike, in
whatever batches they come; and attributes of reserved names never matter. -/
theorem decideAll_mentioned (floor : Floor) (ps : List Policy) (now : Instant) :
    (∀ (records records' : List Record) (i j : Nat) (r r' : Record),
      records[i]? = some r → records'[j]? = some r' → r.id = r'.id →
      (∀ name, Mentioned floor ps name → name ∉ Context.reserved →
        r.attributes.get? name = r'.attributes.get? name) →
      ∃ x, (decideAll floor records ps now)[i]? = some x ∧
        (decideAll floor records' ps now)[j]? = some x) ∧
    ∀ records : List Record,
      decideAll floor (records.map Record.unreserved) ps now = decideAll floor records ps now := by
  have hdecide {r r' : Record} (hid : r.id = r'.id)
      (h : ∀ name, Mentioned floor ps name → name ∉ Context.reserved →
        r.attributes.get? name = r'.attributes.get? name) :
      decide floor r.id (.ofRecord r now) (Policy.inForce ps) =
        decide floor r'.id (.ofRecord r' now) (Policy.inForce ps) := by
    rw [hid]
    apply decide_congr
    apply Context.ofRecord_agree hid _ h
    intro name hname
    exact .inl hname
  constructor
  · intro records records' i j r r' hr hr' hid h
    refine ⟨decide floor r.id (.ofRecord r now) (Policy.inForce ps), ?_, ?_⟩
    · rw [decideAll, List.getElem?_map, hr, Option.map_some]
    · rw [decideAll, List.getElem?_map, hr', Option.map_some, hdecide hid h]
  · intro records
    rw [decideAll, decideAll, List.map_map]
    apply List.map_congr_left
    intro r _
    apply hdecide
    · rfl
    · intro name _ hname
      exact r.get?_unreserved hname

/-- A record like the sample, with a text that no policy mentions and an instant of its own. -/
def wordyRecord : Record :=
  ⟨"m-1", [("body", .str "50% off"), ("category", .str "promotions"), ("now", .str "never")]⟩

theorem decideAll_mentioned_sample :
    (∀ name, Mentioned (.finite .half) samplePolicies name → name ∉ Context.reserved →
        sampleRecord.attributes.get? name = wordyRecord.attributes.get? name) ∧
      ∃ x, (decideAll (.finite .half) [sampleRecord] samplePolicies ⟨2026, 61, 0, 0⟩)[0]? = some x ∧
        (decideAll (.finite .half) [wordyRecord] samplePolicies ⟨2026, 61, 0, 0⟩)[0]? = some x := by
  have hbody : ¬Mentioned (.finite .half) samplePolicies "body" := by
    rintro (hsummary | ⟨p, hp, -, hmentions | ⟨written, path, hslot, -⟩⟩)
    · revert hsummary
      decide
    · simp only [samplePolicies, List.mem_cons, List.not_mem_nil, or_false] at hp
      rcases hp with rfl | rfl | rfl | rfl | rfl <;>
        · cases hmentions with
          | leaf h =>
            revert h
            decide
    · simp only [samplePolicies, List.mem_cons, List.not_mem_nil, or_false] at hp
      rcases hp with rfl | rfl | rfl | rfl | rfl <;>
        simp [samplePolicy, Rationale.pieces] at hslot
  have hagree : ∀ name, Mentioned (.finite .half) samplePolicies name → name ∉ Context.reserved →
      sampleRecord.attributes.get? name = wordyRecord.attributes.get? name := by
    intro name hname hreserved
    have hne : "body" ≠ name := by
      rintro rfl
      exact hbody hname
    have hnow : "now" ≠ name := by
      rintro rfl
      exact hreserved (by decide)
    simp [sampleRecord, wordyRecord, Json.Object.get?, hne, hnow]
  refine ⟨hagree, ?_⟩
  exact (decideAll_mentioned (.finite .half) samplePolicies ⟨2026, 61, 0, 0⟩).1 _ _ 0 0 _ _ rfl rfl
    rfl hagree

end Decision

end Signoff
