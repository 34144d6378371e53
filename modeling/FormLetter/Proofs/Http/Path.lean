import FormLetter.Proofs.ByteOrder
import FormLetter.Proofs.Http.Dispatch
import FormLetter.Proofs.Integer
import FormLetter.Proofs.Text

/-!
# The paths of renderings

An identifier in writing holds nothing that means anything in an address, so it can stand in a path
as it is, and is read back from there.
-/

namespace FormLetter.Http

namespace Percent

end Percent

end FormLetter.Http
