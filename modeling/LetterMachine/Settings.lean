import LetterMachine.Settings.Basic
import LetterMachine.Yaml.Document

namespace LetterMachine

/-- The loader of documents for which the stack has room. -/
def Yaml.standard : Yaml.Loader := Yaml.loader 491

namespace Settings

def read (t : Text) : Except SettingsFault Settings := ofText Yaml.standard t

def load (path : Text) (t : Files.Tree) : Except SettingsFault Settings :=
  ofFile Yaml.standard path t

end Settings

end LetterMachine
