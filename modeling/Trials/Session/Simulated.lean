import Trials.Session.Basic

/-!
# Simulated participants

A `SimulatedParticipant` answers at random: one of the options that a page lists, a fixed text if
the page asks for one, and correctly with a fixed probability.
-/

namespace Trials

/-- A participant who answers at random. -/
structure SimulatedParticipant where
  /-- The probability of a correct answer. -/
  rate : Binary64
  /-- The random words. -/
  words : Words

namespace SimulatedParticipant

/-- The probability nearest to a number; zero for one that is not finite. -/
def probability (rate : Binary64) : Binary64 :=
  if !rate.isFinite then .zero
  else if rate.lt .zero then .zero
  else if Binary64.one.lt rate then .one
  else rate

/-- A participant with the given rate of correct answers and random words. -/
def ofRate (rate : Binary64) (words : Words) : SimulatedParticipant := ⟨probability rate, words⟩

/-- The identifiers of the options that a page lists. -/
def options (page : Page) : List String :=
  match (Json.lookup "options" page.content).bind Json.items? with
  | some items => items.filterMap fun item => (item.field? "id").bind Json.str?
  | none => []

/-- Whether a page asks for a text. -/
def asksForText (page : Page) : Bool :=
  ((Json.lookup "freetext" page.content).bind Json.bool?).getD false

/-- The response to a page, and the participant after the draws. -/
def respond (p : SimulatedParticipant) (page : Page) : Response × SimulatedParticipant :=
  let chosen := p.words.choose (options page)
  let tossed := chosen.2.coin p.rate
  ({ selection := chosen.1
     text := if asksForText page then some "simulated response" else none
     correct := some tossed.1 },
    { p with words := tossed.2 })

instance : Participant SimulatedParticipant := ⟨respond⟩

end SimulatedParticipant

end Trials
