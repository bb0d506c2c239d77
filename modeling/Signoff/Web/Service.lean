import Signoff.Web.Ask

/-!
The desk over the web: each request is read, and then either answered from the store or handed to
the desk as one call and answered with what came of it.
-/

namespace Signoff.Web

/-- A list in a response. -/
def Response.page {α : Type} (f : α → Json) (as : List α) : Response := ok (.arr (as.map f))

/-- Answers a question. -/
def Question.answer (s : Store) : Question → Response
  | .health => .ok (.ofMembers [("status", .str "ok"), ("service", .str "inbox-policy")])
  | .policies enabledOnly =>
    .ofResult .ofAuthoring (.page Policy.toJson) (Authoring.list s enabledOnly)
  | .policy id => .ofResult .ofAuthoring (.ok ·.toJson) (Authoring.found s id)
  | .proposals status limit =>
    .ofResult .ofStore (.page Proposal.toJson) (Review.list s status limit)
  | .proposal id => .ofResult .ofReview (.ok ·.toJson) (Review.found s id)
  | .entries filter => .ofResult .ofStore (.page Audit.Entry.toJson) (s.listEntries filter)

/-- Answers with the result of a call that was made. -/
def Response.ofCall (isNew : Bool) : Call → Response
  | .review (.done r) => ofResult ofReview (told ·.toJson) r
  | .intake (.done r) => ofResult ofStore (told ·.toJson) r
  | .authoring (.done r) => ofResult ofAuthoring (told ·.toJson) r
  | .dryRunDone r => ofResult ofAuthoring (told ·.toJson) r
  | _ => empty
where
  told (body : Json) : Response := if isNew then created body else ok body

/-- Serves what is asked for, from a given place in time. -/
def serve (su : Setup) (moments : Nat → Moment) (first : Nat) (d : Desk) : Ask → Response × Desk
  | .look q => (q.answer d.store, d)
  | .make c isNew =>
    let (done, d) := c.run su moments first d
    (.ofCall isNew done, d)

/-- Responds to a request. Anyone may ask from anywhere what can be done. -/
def respond (su : Setup) (moments : Nat → Moment) (first : Nat) (d : Desk) (r : Request) :
    Response × Desk :=
  if r.method = .options then (⟨200, none⟩, d)
  else
    let (response, d) := match Ask.ofRequest r with
      | .error response => (response, d)
      | .ok a => serve su moments first d a
    (if r.method = .head then { response with body := none } else response, d)

end Signoff.Web
