import Mathlib
import Signoff.Feed.Message
import Signoff.Proofs.Desk.Creation
import Signoff.Proofs.Desk.PolicyTable
import Signoff.Proofs.Json.Decoding
import Signoff.Proofs.Store.Storable
import Signoff.Web.Ask

/-!
What requests bring to the desk. A request that only looks brings nothing; the others bring one call
that has not begun, and what it carries was read from a text, so that it can be written down and
read again.
-/

namespace Signoff

open Json Json.Decoder

/-- A draft that was read nests no deeper than texts may. -/
theorem Policy.Draft.gives_legible : Policy.Draft.decoder.Gives Policy.Draft.Legible := by
  have hcondition : (field ["condition"] value).Gives (Fits (maxLevels - 1)) :=
    gives_value.field _ trivial
  have hparams : (field ["action_params", "params"] value (.default .null)).Gives
      (Fits (maxLevels - 1)) := gives_value.field _ (.null _)
  have hother {α : Type} (f : Fields α) : f.Gives fun _ => True := f.gives_of_forall fun _ => trivial
  apply Fields.Gives.record
  -- the other six fields have nothing to do with it
  refine Fields.Gives.seq (Fields.Gives.seq (Fields.Gives.seq (Fields.Gives.seq (Fields.Gives.seq
    (Fields.Gives.seq (Fields.Gives.seq (Fields.Gives.map (Fields.gives_of_forall _ ?_))
      (hother _)) (hother _)) hcondition) (hother _)) hparams) (hother _)) (hother _)
  intro name priority _ enabled _ condition hfits actionType _ params hparams confidence _ rationale _
  exact ⟨hfits, hparams⟩

theorem Record.gives_written : Record.decoder.Gives Record.Written := by
  have hattributes : (field ["attributes"] object (.default [])).Gives
      fun members => Fits (maxLevels - 1) (.obj members) :=
    gives_object.field _ (.obj List.Pairwise.nil (by simp))
  apply Fields.Gives.record
  refine Fields.Gives.seq (Fields.Gives.map (Fields.gives_of_forall _ ?_)) hattributes
  intro id attributes hfits
  exact ⟨_, parse?_render hfits⟩

/-- A call as it is brought from outside: it has not begun, and what it carries was read. -/
structure Call.Brought (c : Call) : Prop where
  start : c.isStart = true
  draft : ∀ draft, c.draft? = some draft → draft.Legible
  records : ∀ records, c = .intake (.batch records) → ∀ r ∈ records, r.Written

theorem Call.brought_review {r : Review} (h : (Call.review r).isStart = true) :
    (Call.review r).Brought :=
  ⟨h, by rintro _ ⟨⟩, by rintro _ ⟨⟩⟩

theorem Call.brought_authoring {a : Authoring} (h : (Call.authoring a).isStart = true)
    (hdraft : ∀ draft, (Call.authoring a).draft? = some draft → draft.Legible) :
    (Call.authoring a).Brought :=
  ⟨h, hdraft, by rintro _ ⟨⟩⟩

/-- A reviewer at the feed brings decisions. -/
theorem Feed.Message.brought (m : Feed.Message) : (Call.review m.review).Brought := by
  cases m <;> exact Call.brought_review rfl

namespace Web.Ask

theorem gives_document {α : Type} {d : Json.Decoder α} {P : α → Prop} (hd : d.Gives P) {r : Request}
    {a : α} (h : document d r = .ok a) : P a := by
  unfold document at h
  split_ifs at h
  split at h
  · next b hb =>
    cases h
    exact hd.ofText hb
  · cases h
  · cases h

theorem gives_batch : batchDecoder.Gives fun records => ∀ r ∈ records, r.Written :=
  Fields.Gives.record (Fields.Gives.map (Record.gives_written.list.field _ trivial))

/-- What a request can ask for at a route: to look, which is all that can be asked by getting, or
for a call, which is a dry run where those are made. -/
inductive AsksFor (m : Method) (route : Route) : Ask → Prop
  | look (q : Question) : AsksFor m route (.look q)
  | make (c : Call) (isNew : Bool) (hc : c.Brought) (hm : m ≠ .get)
    (hdry : route = .dryRun → ∃ request, c = .dryRun request) : AsksFor m route (.make c isNew)

theorem ne_get_of_allows {m : Method} (h : allows [.post] m = true) : m ≠ .get := by
  rintro rfl
  cases h

theorem asksFor_ofRoute {r : Request} {route : Route} {a : Ask}
    (hallowed : allows route.methods r.method = true) (h : ofRoute r route = .ok a) :
    AsksFor r.method route a := by
  -- what only looks makes no call, and no call is made by the method of looking
  cases route with
  | health =>
    cases h
    exact .look _
  | feed => cases h
  | policies =>
    simp only [ofRoute] at h
    split_ifs at h with hpost
    · obtain ⟨draft, hdraft, rfl⟩ := map_ok.mp h
      have hlegible : draft.Legible := gives_document Policy.Draft.gives_legible hdraft
      refine .make _ true (Call.brought_authoring rfl ?_) (by simp [hpost]) (by simp)
      rintro _ ⟨⟩
      exact hlegible
    · obtain ⟨q, -, rfl⟩ := map_ok.mp h
      exact .look q
  | policy part =>
    simp only [ofRoute] at h
    obtain ⟨id, -, h⟩ := bind_ok.mp h
    split_ifs at h with hput hdelete
    · obtain ⟨draft, hdraft, rfl⟩ := map_ok.mp h
      have hlegible : draft.Legible := gives_document Policy.Draft.gives_legible hdraft
      refine .make _ false (Call.brought_authoring rfl ?_) (by simp [hput]) (by simp)
      rintro _ ⟨⟩
      exact hlegible
    · cases h
      exact .make _ false (Call.brought_authoring rfl (by rintro _ ⟨⟩)) (by simp [hdelete]) (by simp)
    · cases h
      exact .look _
  | switch part enabled =>
    obtain ⟨id, -, rfl⟩ := map_ok.mp h
    exact .make _ false (Call.brought_authoring rfl (by rintro _ ⟨⟩)) (ne_get_of_allows hallowed)
      (by simp)
  | records =>
    obtain ⟨records, hrecords, rfl⟩ := map_ok.mp h
    have hwritten : ∀ r ∈ records, r.Written := gives_document gives_batch hrecords
    refine .make _ false ⟨rfl, by rintro _ ⟨⟩, ?_⟩ (ne_get_of_allows hallowed) (by simp)
    rintro _ ⟨⟩
    exact hwritten
  | proposals =>
    obtain ⟨q, -, rfl⟩ := map_ok.mp h
    exact .look q
  | proposal part =>
    obtain ⟨id, -, rfl⟩ := map_ok.mp h
    exact .look _
  | approval part =>
    obtain ⟨⟨id, said⟩, -, rfl⟩ := map_ok.mp h
    exact .make _ false (Call.brought_review rfl) (ne_get_of_allows hallowed) (by simp)
  | rejection part =>
    obtain ⟨⟨id, said⟩, -, rfl⟩ := map_ok.mp h
    exact .make _ false (Call.brought_review rfl) (ne_get_of_allows hallowed) (by simp)
  | renewal part =>
    obtain ⟨id, -, rfl⟩ := map_ok.mp h
    exact .make _ true (Call.brought_review rfl) (ne_get_of_allows hallowed) (by simp)
  | ledger =>
    obtain ⟨q, -, rfl⟩ := map_ok.mp h
    exact .look q
  | dryRun =>
    obtain ⟨request, -, rfl⟩ := map_ok.mp h
    refine .make _ false ⟨rfl, by rintro _ ⟨⟩, by rintro _ ⟨⟩⟩ (ne_get_of_allows hallowed) ?_
    exact fun _ => ⟨request, rfl⟩

/-- What a request asks for, it asks for at its route. -/
theorem asksFor_ofRequest {r : Request} {a : Ask} (h : ofRequest r = .ok a) :
    ∃ route, Route.ofPath? r.path = some route ∧ AsksFor r.method route a := by
  unfold ofRequest at h
  split at h
  · cases h
  · next route hroute =>
    split_ifs at h with hallowed
    exact ⟨route, hroute, asksFor_ofRoute hallowed h⟩

end Web.Ask
end Signoff
