import Trials.Path

/-!
# Responses

A participant's response to a page, and the record that keeps it together with the page's path.
-/

namespace Trials

/-- A participant's response to one page. -/
structure Response where
  /-- The option chosen, if the page offered any. -/
  selection : Option String := none
  /-- The text entered, if the page asked for one. -/
  text : Option String := none
  /-- Whether the response was correct; none for a page that is not graded. -/
  correct : Option Bool := none
deriving DecidableEq, Inhabited

/-- A response that is nothing but a grade. -/
def Response.graded (correct : Bool) : Response := { correct := some correct }

/-- A response and the path of the page that it answers. -/
structure Record where
  path : Path
  response : Response
deriving DecidableEq, Inhabited

end Trials
