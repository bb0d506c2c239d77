import Signoff.Desk.Authoring
import Signoff.Desk.Review
import Signoff.Text.Split

/-!
Requests to the desk over the web, and its responses. A response tells what came of a call; one that
has no body refuses the form of the request, or has nothing to tell.
-/

namespace Signoff.Web

inductive Method where
  | get
  | head
  | post
  | put
  | delete
  | options
  | other (name : String)
  deriving DecidableEq, Repr

def Method.ofName : String → Method
  | "GET" => .get
  | "HEAD" => .head
  | "POST" => .post
  | "PUT" => .put
  | "DELETE" => .delete
  | "OPTIONS" => .options
  | name => .other name

structure Request where
  method : Method
  /-- The names of the path, still with percent signs; none when the path does not start as one. -/
  path : List String
  /-- What stands behind the question mark. -/
  query : String
  contentType : Option String
  body : String

namespace Request

/-- The text up to a mark, and behind it. -/
def cut (mark : Char) (cs : List Char) : List Char × List Char :=
  (cs.takeWhile (· ≠ mark), (cs.dropWhile (· ≠ mark)).drop 1)

/-- A request for an address, of which nothing behind a hash counts. -/
def ofTarget (method : Method) (target : String) (contentType : Option String) (body : String) :
    Request :=
  let (path, query) := cut '?' (cut '#' target.toList).1
  { method, path := (Text.split '/' (String.ofList path)).drop 1, query := String.ofList query
    contentType, body }

end Request

structure Response where
  status : Nat
  body : Option Json

namespace Response

def ok (body : Json) : Response := ⟨200, some body⟩

def created (body : Json) : Response := ⟨201, some body⟩

/-- Says that all went well, and nothing else. -/
def empty : Response := ⟨204, none⟩

/-- Refuses the form of a request. -/
def refuse (status : Nat) : Response := ⟨status, none⟩

/-- Tells what is wrong. -/
def error (status : Nat) (message : String) : Response :=
  ⟨status, some (.ofMembers [("error", .str message)])⟩

/-- Whether a response says that the request was refused. -/
def isRefusal (r : Response) : Bool := 400 ≤ r.status

def ofStore (e : Store.Error) : Response := error 500 e.message

def ofReview : Review.Error → Response
  | .store e => ofStore e
  | .notFound id => error 404 (Review.Error.notFound id).message
  | e => error 409 e.message

def ofAuthoring : Authoring.Error → Response
  | .store e => ofStore e
  | .notFound id => error 404 (Authoring.Error.notFound id).message
  | e => error 422 e.message

/-- The response that a result means. -/
def ofResult {ε α : Type} (failure : ε → Response) (success : α → Response) :
    Except ε α → Response
  | .error e => failure e
  | .ok a => success a

end Response
end Signoff.Web
