import LetterMachine.Command.Run

namespace LetterMachine.Main

def pathOf (p : Files.Place) : String :=
  String.ofList ('/' :: ['/'].intercalate p.reverse)

/-- What stands at a place of the file system. -/
def entryAt (p : Files.Place) : IO (Option Files.Entry) := do
  if ← ((← IO.currentDir) / pathOf p).isDir then return some .directory
  try
    return some (.file (← IO.FS.readBinFile (pathOf p)).toList)
  catch _ => return none

/-- What stands at the places that paths pass through. -/
def snapshot (paths : List Text) : IO Files.Tree := do
  let current := (← IO.currentDir).toString.toList
  let here := ((Files.names current).filter fun n => !Files.isIdle n).reverse
  let empty : Files.Tree := ⟨[], here⟩
  let places := ((current :: paths).flatMap empty.passed).eraseDups
  let entries ← places.filterMapM fun p => return (← entryAt p).map (p, ·)
  return ⟨entries, here⟩

/-- The paths that a command line mentions. -/
def pathsOf (args : List Text) : List Text :=
  match Command.Request.ofTexts args with
  | .ok r => r.paths
  | .error _ => []

end LetterMachine.Main

open LetterMachine in
def main (args : List String) : IO UInt32 := do
  let words := args.map String.toList
  let before ← Main.snapshot (Main.pathsOf words)
  let outcome := Command.run words before
  for (place, bytes) in before.changes outcome.files do
    IO.FS.writeBinFile (Main.pathOf place) ⟨bytes.toArray⟩
  (← IO.getStdout).putStr (String.ofList outcome.printed)
  (← IO.getStderr).putStr (String.ofList outcome.said)
  return UInt32.ofNat (outcome.exit.code?.getD 1)
