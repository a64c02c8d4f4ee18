import Phrasebook.CommandLine.Check
import Phrasebook.CommandLine.Coverage
import Phrasebook.CommandLine.Listing
import Phrasebook.CommandLine.Translation

/-! The program as a function of its arguments, of the files it may read and of how faulty
definitions are explained. -/

namespace Phrasebook.CommandLine

def Command.run (command : Command) (reader : File.Reader)
    (explain : Definitions.Explanation) : Outcome :=
  match command with
  | check options => options.run reader explain
  | list options => options.run reader
  | coverage options => options.run reader
  | translate options => options.run reader

def Stop.outcome : Stop → Outcome
  | usage => ⟨.usage, "", [.advice .usage]⟩
  | help => ⟨.success, "", [.advice .help]⟩
  | version => .success "lingot 0.1.0\n"

/-- Unless it is said how, faulty definitions are not explained. -/
def run (arguments : List String) (reader : File.Reader)
    (explain : Definitions.Explanation := fun _ => "") : Outcome :=
  match Command.read arguments with
  | .ok command => command.run reader explain
  | .error stop => stop.outcome

end Phrasebook.CommandLine
