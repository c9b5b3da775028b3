import LayoutAudit.Evaluation
import LayoutAudit.Failure

/-!
# Browser.Call — what a run asks of a browser

Every entry of a plan has a page of its own, so a call need not say which page it is about.

* `Call` — the calls on the page of an entry;
* `Call.Reply` — what a successful call gives;
* `Reaction` — an answer to whatever is called.
-/

namespace LayoutAudit

inductive Call where
  /-- Opens the page, sized to a viewport. -/
  | openPage (viewport : Viewport)
  | navigate (path : String)
  | measure (spec : Spec)
  | close

namespace Call

def name : Call → String
  | openPage _ => "open"
  | navigate _ => "navigate"
  | measure _ => "measure"
  | close => "close"

/-- What a successful call gives. -/
def Reply : Call → Type
  | measure _ => Measurement
  | _ => Unit

end Call

/-- An answer to whatever is called. -/
abbrev Reaction := (call : Call) → Attempt call.Reply

end LayoutAudit
