-- SUMMARY: The log of a call tells what was checked, in order, and how the call ended.
import DidAdmission.Proofs.Admission.Candor
import DidAdmission.Proofs.Admission.Pairing

/-!
# Transcripts

As the checks of a call are candid, its lines tell how it ended: one line reports the rejection, the lines
before it refute a signature only where it is the one rejected, and an accepted call leaves just the lines
of the checks that it passed.
-/

namespace DidAdmission

/-! ## Lines -/

/-- The lines that a call leaves. -/
def Logged.log {α : Type} (x : Logged α) : List LogLine :=
  x.events.map Event.line

namespace Event

end Event

/-! ## Reports -/

namespace Logged

variable {α : Type} {x : Logged α}

end Logged

/-! ## Accepted calls -/

namespace Check

variable {message : Bytes} {signatures : List Signature}

end Check

namespace Envelope

variable {profile : Profile} {e : Envelope} {p : Particulars}

end Envelope

/-! ## Transcripts -/

namespace Logged

variable {α : Type} {x : Logged α} {search : List Event}

end Logged

namespace Envelope

end Envelope

end DidAdmission
