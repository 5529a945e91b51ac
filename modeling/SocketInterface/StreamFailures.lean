import SocketInterface.StreamRuns

/-!
# Operations of `StreamSocketFsm` that throw

They leave the socket as it was, except for a `resetConnection` that gave the old
connection up and got no new one. That one can be tried again.
-/

namespace Snl

open Method

section

variable [Host] {m : CloseFailure} {c0 c c' c'' : StrSoConfig} {l l' : StrSoLabel}
  {t : List StrSoMove}

end

end Snl
