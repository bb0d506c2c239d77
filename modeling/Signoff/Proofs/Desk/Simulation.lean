import Mathlib
import Signoff.Proofs.Desk.Placing
import Signoff.Proofs.Desk.Reachable

/-!
A dry run foretells a batch. On one desk and as of one instant the two decide alike, so that what a
dry run shows as matched is what a batch tries to propose; the batch then keeps those for which no
pending proposal is there, and accounts for every record. A dry run does nothing to the desk.
-/

namespace Signoff

/-- What a preview shows of a match is what a proposal proposes. -/
structure Preview.Shows (v : Preview) (p : Proposal) : Prop where
  recordId : v.recordId = p.recordId
  policyId : v.policyId = p.policyId
  actionType : v.actionType = some p.actionType
  params : v.params = some p.params
  confidence : v.confidence = some p.confidence
  rationale : v.rationale = some p.rationale

/-- How the report of a dry run foretells what a batch of the same records tries to add, what it
reports, and the desk that it leaves. -/
structure Foretells (records : List Record) (dry : DryRun.Report) (d : Desk) (tried : List Proposal)
    (live : Intake.Report) (d' : Desk) : Prop where
  previews : List.Forall₂ Preview.Shows (dry.previews.filter (·.matched)) tried
  distinct : (tried.map (·.id)).Nodup
  sublist : live.created.Sublist tried
  /-- Those are created for which none is pending, in the store or among those created before. -/
  created : ∀ (before after : List Proposal) (p : Proposal), tried = before ++ p :: after →
    (p ∈ live.created ↔ ¬d.store.Awaits p ∧ ∀ q ∈ before, q ∈ live.created → ¬q.Twin p)
  duplicates : live.created.length + live.duplicates = tried.length
  unmatched : live.unmatched = dry.previews.countP fun v => !v.matched
  total : live.created.length + live.duplicates + live.unmatched = records.length
  anomalies : live.anomalies = dry.anomalies
  store : d'.store =
    { d.store with proposals := d.store.proposals ++ live.created.map .ofProposal }
  told : d'.told = d.told ++ live.created.map .proposed
  dispatched : d'.dispatched = d.dispatched

/-- The matched previews of decisions show the proposals that are tried for them. -/
theorem Placing.shows {now : Instant} {d d' : Desk} {xs : List Decision}
    {tried created : List Proposal} (h : Placing now d xs tried created d')
    (hrecord : ∀ x ∈ xs, ∀ f, x.found = some f → f.record.recordId = x.recordId) :
    List.Forall₂ Preview.Shows ((xs.map Preview.ofDecision).filter (·.matched)) tried := by
  have hshows {x : Decision} {f : Match} (id : Uuid) (hx : x.found = some f)
      (hid : f.record.recordId = x.recordId) :
      (Preview.ofDecision x).matched = true ∧ (Preview.ofDecision x).Shows (.ofMatch id f now) := by
    simp only [Preview.ofDecision, hx]
    exact ⟨rfl, hid.symm, rfl, rfl, rfl, rfl, rfl⟩
  -- along the decisions: the previews that stay are those of the matches, which are tried
  induction h with
  | nil d => exact .nil
  | @unmatched d d' x xs tried created hx rest ih =>
    have hmatched : (Preview.ofDecision x).matched = false := by
      simp only [Preview.ofDecision, hx]
      rfl
    rw [List.map_cons, List.filter_cons_of_neg (by simp [hmatched])]
    exact ih fun y hy => hrecord y (List.mem_cons_of_mem _ hy)
  | @duplicate d d' x xs tried created f id hx h rest ih =>
    obtain ⟨hmatched, hpreview⟩ := hshows id hx (hrecord x List.mem_cons_self f hx)
    rw [List.map_cons, List.filter_cons_of_pos hmatched]
    exact .cons hpreview (ih fun y hy => hrecord y (List.mem_cons_of_mem _ hy))
  | @created d d' x xs tried created f id hx h rest ih =>
    obtain ⟨hmatched, hpreview⟩ := hshows id hx (hrecord x List.mem_cons_self f hx)
    rw [List.map_cons, List.filter_cons_of_pos hmatched]
    exact .cons hpreview (ih fun y hy => hrecord y (List.mem_cons_of_mem _ hy))

/-- A match is about the record that was decided on. -/
theorem recordId_of_found {floor : Floor} {records : List Record} {policies : List Policy}
    {now : Instant} {x : Decision} (hx : x ∈ Decision.decideAll floor records policies now)
    {f : Match} (hf : x.found = some f) : f.record.recordId = x.recordId := by
  obtain ⟨r, -, rfl⟩ := List.mem_map.mp hx
  obtain ⟨p, -, rfl⟩ := Option.map_eq_some_iff.mp hf
  rfl

/-- What placing the decisions of a batch comes to was foretold by the report on them. -/
theorem Placing.foretells {floor : Floor} {records : List Record} {policies : List Policy}
    {now : Instant} {d d' : Desk} {tried created : List Proposal}
    (h : Placing now d (Decision.decideAll floor records policies now) tried created d')
    (hids : (tried.map (·.id)).Nodup) :
    Foretells records (.ofDecisions now (Decision.decideAll floor records policies now)) d tried
      (Intake.Report.empty.after (Decision.decideAll floor records policies now) tried created)
      d' := by
  obtain ⟨hstore, htold, hdispatched⟩ := h.desk_eq
  have hcount : created.length + (0 + (tried.length - created.length)) = tried.length := by
    have hle := h.sublist.length_le
    omega
  have htotal := h.length
  rw [Decision.decideAll, List.length_map, ← Decision.decideAll] at htotal
  have hunmatched : ((Decision.decideAll floor records policies now).map Preview.ofDecision).countP
      (fun v => !v.matched) =
      (Decision.decideAll floor records policies now).countP (·.found.isNone) := by
    rw [List.countP_map]
    congr 1
    funext x
    exact Option.not_isSome x.found
  exact
    { previews := h.shows fun x hx f hf => recordId_of_found hx hf
      distinct := hids
      sublist := h.sublist
      created := fun before after p hsplit => h.mem_created_iff hids hsplit
      duplicates := hcount
      unmatched := (Nat.zero_add _).trans hunmatched.symm
      total := by
        change created.length + (0 + (tried.length - created.length)) + (0 + _) = _
        rw [hcount, Nat.zero_add]
        exact htotal
      anomalies := Nat.zero_add _
      store := hstore
      told := htold
      dispatched := hdispatched }

theorem listPolicies_ok {s : Store} (h : s.schema.has .policies = true) (enabledOnly : Bool) :
    ∃ policies, s.listPolicies enabledOnly = .ok policies := by
  simp only [Store.listPolicies, Store.requires, h, if_true]
  exact ⟨_, rfl⟩

/-- Without a candidate a dry run decides with the policies in force. -/
theorem dryRun_eq {s : Store} {policies : List Policy} (h : s.listPolicies true = .ok policies)
    (floor : Double) (records : List Record) (includeSaved : Bool) (now present : Instant) :
    Authoring.dryRun s floor ⟨records, none, includeSaved, some now⟩ present =
      .ok (.ofDecisions now (Decision.decideAll floor records policies now)) := by
  simp only [Authoring.dryRun, DryRun.usesSaved, DryRun.policies, Option.isNone_none, Bool.true_or,
    if_true, h]
  rfl

/-- Whatever calls went on at a desk, a dry run without a candidate leaves it as it is, and
foretells what a batch of the same records does there as of the same instant. -/
theorem dryRun_foretells_intake {d : Desk} (hd : d.Reachable) (su : Setup) (present : Moment)
    (moments : Nat → Moment) (first : Nat) (records : List Record) (includeSaved : Bool)
    (hfresh : Fresh (stretch moments first (Intake.batch records).left) d.store) :
    ∃ (dry : DryRun.Report) (live : Intake.Report) (d' : Desk),
      Call.step su present d (.dryRun ⟨records, none, includeSaved, some (moments first).now⟩) =
        (.dryRunDone (.ok dry), d) ∧
      Call.run su moments first (.intake (.batch records)) d = (.intake (.done (.ok live)), d') ∧
      Foretells records dry d
        (Call.tries su moments (Intake.batch records).left first (.intake (.batch records)) d)
        live d' := by
  have hschema : d.store.schema.has .policies = true := by
    rw [hd.schema]
    decide
  -- both read the same policies, and decide as of the same instant
  obtain ⟨policies, hlist⟩ := listPolicies_ok hschema true
  have hdry := dryRun_eq hlist su.floor records includeSaved (moments first).now present.now
  have hstep : Call.step su (moments first) d (.intake (.batch records)) =
      (.intake (.place (Decision.decideAll su.floor records policies (moments first).now)
        (moments first).now .empty), d) := by
    simp only [Call.step, Intake.step, hlist]
  have hids := hfresh.distinct.sublist
    (Call.tries_ids su moments (Intake.batch records).left first (.batch records) d)
  have hleft : (Intake.batch records).left = 2 * records.length + 1 + 1 := rfl
  -- the step that reads the policies adds nothing, so its identifier is not used
  rw [hleft, stretch_succ] at hfresh
  obtain ⟨tried, created, d', htries, hrun, hplacing⟩ :=
    Call.runFor_place su (Decision.decideAll su.floor records policies (moments first).now)
      (moments first).now .empty hd.filled
      (by rw [Decision.decideAll, List.length_map]) hfresh.tail
  have htries' : Call.tries su moments (Intake.batch records).left first
      (.intake (.batch records)) d = tried := by
    rw [hleft, Call.tries_succ, hstep, htries]
    rfl
  rw [htries'] at hids ⊢
  refine ⟨_, _, d', ?_, ?_, hplacing.foretells hids⟩
  · rw [Call.step, hdry]
  · rw [Call.run]
    change Call.runFor su moments (2 * records.length + 1 + 1) first _ d = _
    rw [Call.runFor_succ, hstep, hrun]

/-- A policy on records with a category, and a batch of one such record, for use in examples. -/
def sampleMorning : List Call :=
  [.authoring (.create ⟨"", 0, true, .obj [("field", .str "category"), ("op", .str "exists")],
    "archive", .null, .one, ""⟩), .intake (.batch [⟨"m-1", [("category", .str "news")]⟩])]

/-- The desk when both calls have ended; one proposal waits. -/
def sampleNoon : Desk :=
  ((⟨.empty, sampleMorning⟩ : Traffic).run [sampleTurn 0 0, sampleTurn 1 1, sampleTurn 1 2,
    sampleTurn 1 3, sampleTurn 1 4]).desk

/-- A record that has a proposal already, one twice that has none yet, and one without a
category. -/
def sampleRecords : List Record :=
  [⟨"m-1", [("category", .str "news")]⟩, ⟨"m-2", [("category", .str "news")]⟩, ⟨"m-3", []⟩,
    ⟨"m-2", [("category", .str "news")]⟩]

def sampleMoments (n : Nat) : Moment := ⟨⟨2026, 62, 0, 0⟩, numbered n⟩

theorem fresh_sampleMoments : Fresh (stretch sampleMoments 5 10) sampleNoon.store where
  distinct := by decide +kernel
  unused := by decide +kernel

theorem dryRun_foretells_intake_sample :
    sampleNoon.Reachable ∧ Fresh (stretch sampleMoments 5 10) sampleNoon.store ∧
    ∃ (dry : DryRun.Report) (live : Intake.Report) (d' : Desk),
      Call.run (sampleTurn 0 0).setup sampleMoments 5 (.intake (.batch sampleRecords)) sampleNoon =
        (.intake (.done (.ok live)), d') ∧
      Foretells sampleRecords dry sampleNoon
        (Call.tries (sampleTurn 0 0).setup sampleMoments 10 5 (.intake (.batch sampleRecords))
          sampleNoon) live d' ∧
      d'.store.proposals.map (fun r => (r.id, r.recordId)) =
        [(.text (numbered 2).text, .text "m-1"), (.text (numbered 7).text, .text "m-2")] := by
  have hreachable : sampleNoon.Reachable := ⟨sampleMorning, _, rfl⟩
  obtain ⟨dry, live, d', -, hrun, h⟩ := dryRun_foretells_intake hreachable (sampleTurn 0 0).setup
    (sampleTurn 0 0).moment sampleMoments 5 sampleRecords false fresh_sampleMoments
  have hstore : (Call.run (sampleTurn 0 0).setup sampleMoments 5 (.intake (.batch sampleRecords))
      sampleNoon).2.store.proposals.map (fun r => (r.id, r.recordId)) =
      [(.text (numbered 2).text, .text "m-1"), (.text (numbered 7).text, .text "m-2")] := by
    decide +kernel
  rw [hrun] at hstore
  exact ⟨hreachable, fresh_sampleMoments, dry, live, d', hrun, h, hstore⟩

end Signoff
