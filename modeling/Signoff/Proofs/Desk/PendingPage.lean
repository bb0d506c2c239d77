import Mathlib
import Signoff.Feed.Hub
import Signoff.Proofs.Desk.PolicyBook
import Signoff.Proofs.Desk.Tidy
import Signoff.Proofs.Desk.Pages

/-!
What reviewers are shown of the proposals that are pending. Every row is of the instant at which its
proposal was made, and keeps it; so the rows that are listed are the newest, each of them once. They
are listed up to a page, and a proposal that a full page of newer ones stands before is not shown.
-/

namespace Signoff

open Store

namespace Store

theorem timed_empty : empty.Timed := fun _ h => nomatch h

theorem created_after (r : ProposalRow) (t : Transition) : (r.after t).created = r.created := by
  rw [ProposalRow.after]
  split <;> rfl

end Store

variable {d : Desk} {m : Moment} {c : Call}

theorem timed_step (su : Setup) (hr : d.store.Ready) (h : d.store.Timed) (hc : c.Bears) :
    (c.step su m d).2.store.Timed := by
  intro r' hr'
  rcases rows_step (m := m) su hr c with hp | ⟨t, -, hp⟩ | ⟨p, ha, -, hp⟩
  · rw [hp] at hr'
    exact h r' hr'
  · rw [hp] at hr'
    obtain ⟨r, hr, rfl⟩ := List.mem_map.mp hr'
    rw [created_after]
    exact h r hr
  · rw [hp] at hr'
    rcases List.mem_append.mp hr' with hr' | hr'
    · exact h r' hr'
    · -- the new row is of the instant of its proposal
      rw [List.mem_singleton.mp hr']
      exact ⟨p.created, (storable_of_adds? hc ha).2.created, rfl⟩

theorem timed_run {t : Traffic} (hd : t.desk.store.Tidy) (h : t.desk.store.Timed)
    (hc : ∀ c ∈ t.calls, c.Carries) {turns : List Turn}
    (hclock : ∀ x ∈ turns, x.moment.now.Sortable) : (t.run turns).desk.store.Timed := by
  refine (run_keeps (I := fun d => d.store.Tidy ∧ d.store.Timed) ?_ ⟨hd, h⟩ hc hclock).1.2
  rintro x c d hnow ⟨htidy, htimed⟩ hcarries
  have htimed' := timed_step (m := x.moment) x.setup htidy.toReady htimed hcarries.bears
  exact ⟨⟨tidy_step x.setup htidy hnow hcarries, htimed'⟩,
    carries_step x.setup htidy hnow hcarries⟩

namespace Store

variable {s : Store}

/-- The proposals that stand in the rows. -/
theorem Readable.exists_holds (h : s.Readable) :
    ∃ proposal : ProposalRow → Proposal, ∀ r ∈ s.proposals, r.Holds (proposal r) := by
  have hrow : ∀ r, ∃ p, r ∈ s.proposals → r.Holds p := by
    intro r
    by_cases hr : r ∈ s.proposals
    · obtain ⟨p, hp⟩ := h r hr
      exact ⟨p, fun _ => hp⟩
    · -- elsewhere any proposal will do
      have p : Proposal := ⟨.nil, "", [], "", .null, none, .zero, "", .pending, ⟨0, 1, 0, 0⟩, none,
        none, none, none⟩
      exact ⟨p, fun hmem => absurd hmem hr⟩
  choose proposal hproposal using hrow
  exact ⟨proposal, hproposal⟩

theorem nodup_ids (hk : s.Keyed) {proposal : ProposalRow → Proposal}
    (h : ∀ r ∈ s.proposals, r.Holds (proposal r)) :
    ((s.proposals.map proposal).map (·.id)).Nodup := by
  rw [List.map_map, List.Nodup, List.pairwise_map]
  apply hk.proposals.imp_of_mem
  intro r u hr hu hclash hsame
  have hid : (proposal u).id = (proposal r).id := hsame.symm
  have hown := (h u hu).own
  rw [hid, not_isOf_of_not_clashes hclash (h r hr).own] at hown
  cases hown

/-- All that is pending, the newest first, as far as it goes on a page. -/
theorem pending_page (hr : s.Ready) (hread : s.Readable) (htimed : s.Timed) :
    ∃ stored all, s.proposals.mapM (·.read) = .ok stored ∧ (stored.map (·.id)).Nodup ∧
      Newest Proposal.created (·.status = .pending) stored all ∧
      Review.pending s = .ok (all.take Review.maxPage) := by
  obtain ⟨proposal, hholds⟩ := hread.exists_holds
  have hids := nodup_ids hr.toKeyed hholds
  have hreads : ∀ r ∈ s.proposals, r.Reads (proposal r) := fun r hrow => (hholds r hrow).reads
  obtain ⟨rows, hlatest, hlist⟩ := listProposals_latest hr hreads (some .pending)
  -- texts of times are in the order of time, so the rows are sorted as their proposals are
  have hnewest := hlatest.newest (htimed.compare_createdText hreads)
  -- what is listed of the rows is then listed of the proposals, and cut at the same place
  refine ⟨s.proposals.map proposal, rows.map proposal, ?_, hids, ?_, ?_⟩
  · exact mapM_eq_map fun r hrow => read_ok.mpr (hreads r hrow)
  · apply hnewest.map (List.Nodup.of_map _ hids)
    · intro r _
      rfl
    · intro r _
      simp [AtStatus]
  · rw [Review.pending, hlist, List.map_take]

end Store

/-- Whatever calls from outside came to, reviewers are shown the newest of the proposals that are
stored and pending, each of them once and nothing else, the newest first: the first page of them,
which leaves none out exactly when they are no more than a page. The frame that whoever takes a seat
is greeted with holds just these. -/
theorem pending_newest {calls : List Call} (hbrought : ∀ c ∈ calls, c.Brought) {turns : List Turn}
    (hclock : ∀ x ∈ turns, x.moment.now.Sortable) {d : Desk}
    (hd : d = ((⟨.empty, calls⟩ : Traffic).run turns).desk) :
    ∃ stored all, d.store.proposals.mapM (·.read) = .ok stored ∧ (stored.map (·.id)).Nodup ∧
      Newest Proposal.created (·.status = .pending) stored all ∧
      Review.pending d.store = .ok (all.take Review.maxPage) ∧
      ((∀ p ∈ stored, p.status = .pending → p ∈ all.take Review.maxPage) ↔
        all.length ≤ Review.maxPage) ∧
      ∀ seat : Feed.Seat, seat.greeted = false → (seat.greet d.store).sent =
        seat.sent ++ [.event (.pendingSync (all.take Review.maxPage))] := by
  subst hd
  have hcarries : ∀ c ∈ calls, c.Carries := fun c hc => (hbrought c hc).carries
  have htidy := tidy_run (t := ⟨.empty, calls⟩) tidy_empty hcarries hclock
  have htimed := timed_run (t := ⟨.empty, calls⟩) tidy_empty timed_empty hcarries hclock
  obtain ⟨stored, all, hstored, hids, hnewest, hpending⟩ :=
    pending_page htidy.toReady htidy.readable htimed
  refine ⟨stored, all, hstored, hids, hnewest, hpending, hnewest.all_shown_iff _, ?_⟩
  intro seat hgreeted
  rw [Feed.Seat.greet, hgreeted, hpending]
  rfl

/-- A policy and two batches, for use in examples. -/
def sampleWeek : List Call :=
  [.authoring (.create sampleDraft), .intake (.batch [⟨"m-1", []⟩, ⟨"m-2", []⟩]),
    .intake (.batch [⟨"m-3", []⟩])]

/-- The second batch comes a day after the first. -/
def sampleWeekTurns : List Turn :=
  [sampleTurn 0 0, sampleTurn 1 1, sampleTurn 1 2, sampleTurn 1 3, sampleTurn 1 4, sampleTurn 1 5,
    sampleTurn 1 6] ++
  [7, 8, 9, 10].map fun n => { sampleTurn 2 n with moment := ⟨⟨2026, 62, 0, 0⟩, numbered n⟩ }

theorem brought_sampleWeek : ∀ c ∈ sampleWeek, c.Brought := by
  have hbatch (records : List Record) (h : ∀ r ∈ records, r.attributes = []) :
      (Call.intake (.batch records)).Brought := by
    refine ⟨rfl, by rintro _ ⟨⟩, ?_⟩
    rintro _ ⟨⟩ r hr
    have hbare := Record.written_bare r.id
    rwa [← h r hr] at hbare
  rw [sampleWeek, List.forall_mem_cons, List.forall_mem_cons, List.forall_mem_singleton]
  refine ⟨Call.brought_authoring rfl ?_, hbatch _ (by simp), hbatch _ (by simp)⟩
  rintro _ ⟨⟩
  exact legible_sampleDraft

theorem sortable_sampleWeekTurns : ∀ x ∈ sampleWeekTurns, x.moment.now.Sortable := by
  have hlater : (⟨2026, 62, 0, 0⟩ : Instant).Sortable :=
    ⟨⟨by decide, by decide, by decide⟩, by decide⟩
  rw [sampleWeekTurns, List.forall_mem_append, List.forall_mem_map]
  exact ⟨by simp [sortable_sampleTurn], fun _ _ => hlater⟩

theorem pending_newest_sample :
    let d := ((⟨.empty, sampleWeek⟩ : Traffic).run sampleWeekTurns).desk
    (∀ c ∈ sampleWeek, c.Brought) ∧ (∀ x ∈ sampleWeekTurns, x.moment.now.Sortable) ∧
    d.store.proposals.map (fun r => (r.recordId, r.isPending)) =
      [(.text "m-1", true), (.text "m-2", true), (.text "m-3", true)] ∧
    ∃ stored all, d.store.proposals.mapM (·.read) = .ok stored ∧
      Newest Proposal.created (·.status = .pending) stored all ∧
      Review.pending d.store = .ok (all.take Review.maxPage) := by
  intro d
  obtain ⟨stored, all, hstored, -, hnewest, hpending, -⟩ :=
    pending_newest brought_sampleWeek sortable_sampleWeekTurns (d := d) rfl
  exact ⟨brought_sampleWeek, sortable_sampleWeekTurns, by decide +kernel, stored, all, hstored,
    hnewest, hpending⟩

end Signoff
