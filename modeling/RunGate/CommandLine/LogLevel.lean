import RunGate.Event
import RunGate.Text.LowerCase

namespace RunGate.Level

/-- The level that a text names, whatever its case and surrounding white space. -/
def read? (text : String) : Option Level :=
  let wanted := Text.fold text
  if wanted == "warning" then some .warn else named? wanted

/-- The level given on the command line; without it the one that the environment names; without
that, too, informative events are shown. -/
def choose (flag : Option Level) (environment : Option String) : Level :=
  match flag with
  | some level => level
  | none => (environment.bind read?).getD .info

end RunGate.Level
