import LetterMachine.Command.Work
import LetterMachine.Settings

namespace LetterMachine.Command

def run (args : List Text) (files : Files.Tree) : Outcome := runWith Yaml.standard args files

end LetterMachine.Command
