import Signoff.Text.Split
import Signoff.Web.Percent

/-!
Form data, as it stands behind the question mark of a web address: named texts joined by ampersands.
A plus sign means a blank, and a name that is asked for may stand there once.
-/

namespace Signoff.Web

/-- Named texts in order. -/
abbrev Form := List (String × String)

namespace Form

/-- The text of a name or of what it is set to. -/
def part (cs : List Char) : String :=
  let blanks := cs.map fun c => if c = '+' then ' ' else c
  String.ofList (Utf8.lossy (Percent.decode (Utf8.bytes (String.ofList blanks))))

/-- One name and its text, parted by the first equals sign. -/
def entry (cs : List Char) : String × String :=
  (part (cs.takeWhile (· ≠ '=')), part ((cs.dropWhile (· ≠ '=')).drop 1))

/-- The entries of form data; empty ones count for nothing. -/
def ofText (text : String) : Form :=
  (((Text.split '&' text).map String.toList).filter (!·.isEmpty)).map entry

/-- What stands under a name; none when it stands there twice. -/
def single? (f : Form) (name : String) : Option (Option String) :=
  match f.filter (·.1 = name) with
  | [] => some none
  | [(_, text)] => some (some text)
  | _ => none

/-- The value under a name; none when what stands there is no such value. -/
def field? {α : Type} (f : Form) (name : String) (read : String → Option α) : Option (Option α) :=
  (f.single? name).bind fun
    | none => some none
    | some text => (read text).map some

end Form
end Signoff.Web
