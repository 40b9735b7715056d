import Sluice.Fault.Abort
import Sluice.Fault.RelayError

/-!
# Failures to start

Why a worker or a relay could not be made: the system or the settings did not allow it, or an
assertion broke on the way.
-/

namespace Sluice

inductive StartFailure where
  | refused (e : RelayError)
  | panicked (cause : PanicCause)
  deriving DecidableEq, Repr

end Sluice
