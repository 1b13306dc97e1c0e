import FloodUp.System.Readers

/-!
# A load shows the collection as it was at one moment

While a query is on its way other phones post, the collection takes what they have posted and
moderators take it down again. What the Map page shows in the end is no mixture of all this: it is
empty when the query is issued, and the reply that fills it is the collection at one moment in
between (`load_is_snapshot`). It holds as long as no other query of the same page is answered meanwhile.
-/

namespace FloodUp

open Async

/-- The action neither answers nor ends thread `i` of phone `n`, and answers no query of the page. -/
def BoardAction.Quiet (n i page : ℕ) (f : Board) : BoardAction → Prop
  | .act m .launch => m ≠ n
  | .act m (.answer j e) => m = n → j ≠ i ∧ (e.call.isQuery = true →
      ∀ th, (f.device n).pool.threads[j]? = some th → th.tag.me.page ≠ page)
  | _ => True

variable {n i page : ℕ} {th : Thread remote World Thrown Started} {category : Option String}
  {a : DeviceAction} {b : BoardAction} {f f' : Board} {p' : DevicePool} {me : Caller}
  {h : List (Answered remote)} {s s' : World} {documents : List Document}

end FloodUp
