import Signoff.Instant.Printer
import Signoff.Instant.Reader
import Signoff.Json.Decode

/-!
Instants in JSON, as text.
-/

namespace Signoff.Instant

def toJson (t : Instant) : Json := .str t.text

def decoder : Json.Decoder Instant := Json.Decoder.string.bind? ofJsonText?

end Signoff.Instant
