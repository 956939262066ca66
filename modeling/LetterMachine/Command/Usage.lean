import LetterMachine.Text.Basic

namespace LetterMachine.Command

def programName : Text := "regasm".toList

def usage : List Text :=
  ["usage: regasm [-h] [-c CONFIG] [-v] [-l] [--strict] [--no-run] [--version]",
    "              input"].map String.toList

/-- What the program does, and what the parts of its command line mean. -/
def help : List Text :=
  usage ++
  ["",
    "Letter-register assembler and interpreter",
    "",
    "positional arguments:",
    "  input                 Input assembly file (created with a default program if",
    "                        missing)",
    "",
    "options:",
    "  -h, --help            show this help message and exit",
    "  -c CONFIG, --config CONFIG",
    "                        YAML configuration file",
    "  -v, --verbose         Print token lists, the assembled program and an",
    "                        execution trace",
    "  -l, --listing         Print assembly listing",
    "  --strict              Reject operands that are neither numbers nor register",
    "                        letters",
    "  --no-run              Assemble only; do not execute the program",
    "  --version             show program's version number and exit",
    "",
    "Examples:",
    "  regasm programs/demo.asm",
    "  regasm programs/demo.asm -v",
    "  regasm programs/demo.asm --listing --no-run",
    "        "].map String.toList

def version : Text := programName ++ " 1.0.0".toList

end LetterMachine.Command
