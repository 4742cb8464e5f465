import DialogueMarkup.Command.Run

/-!
The command line on the files of the machine: what a run may look up is read first, then the run is
made, and its report is printed and written.
-/
namespace DialogueMarkup.Command
open Files

def placesRead (folder : Location) (user : Path) (o : Options) : List Location :=
  (user :: o.state.toList.flatMap Option.toList ++ o.config.toList.flatMap Option.toList ++
    (o.textFile.map Path.ofText).toList).map
    (Path.place folder) ++ Settings.projectPlaces Settings.searchDepth folder

def placesTried (folder : Location) (o : Options) : List Location :=
  (o.output.map (Path.place folder)).toList.flatMap fun place => [place.dropLast, place]

def entryAt? (octets : Bool) (place : Location) : IO (Option (Location × Entry)) := do
  let file := (← IO.currentDir) / String.ofList (Path.ofPlace place).text
  if ← file.isDir then return some (place, .folder)
  if !(← file.pathExists) then return none
  if !octets then return some (place, .file [])
  try return some (place, .file (← IO.FS.readBinFile file).toList)
  catch _ => return none

partial def readStream (stream : IO.FS.Stream) (read : List UInt8) : IO (List UInt8) := do
  let block ← stream.read 65536
  if block.isEmpty then return read else readStream stream (read ++ block.toList)

def readWorld (o : Options) : IO World := do
  let folder := (Path.ofText (← IO.currentDir).toString.toList).components
  let home := ((← IO.getEnv "HOME").getD "/").toList
  let userSettings := Path.ofText (home ++ "/.switchtext/config.json".toList)
  let read ← (placesRead folder userSettings o).filterMapM (entryAt? true)
  let tried ← (placesTried folder o).filterMapM (entryAt? false)
  let input ← if o.stdin && o.text.isNone then readStream (← IO.getStdin) [] else pure []
  match Text.Utf8.decode input with
  | none => throw (IO.userError "the standard input is not UTF-8")
  | some input =>
    return { tree := ⟨read ++ tried ++ [(folder, .folder)]⟩, folder, userSettings, input }

def deliver (outcome : Outcome) : IO UInt32 := do
  if let some (path, text) := outcome.report.written then
    IO.FS.writeFile (String.ofList path.text) (String.ofList text)
  IO.print (String.ofList outcome.report.output)
  IO.eprint (String.ofList outcome.report.errors)
  match outcome.stop with
  | .exit code => return code.toUInt32
  | .crash c =>
    IO.eprintln (String.ofList c.message)
    return 1

end DialogueMarkup.Command

def main (args : List String) : IO UInt32 := do
  let argv := args.map String.toList
  let options := (DialogueMarkup.Command.Options.parse argv).toOption.getD {}
  let world ← DialogueMarkup.Command.readWorld options
  DialogueMarkup.Command.deliver (DialogueMarkup.Command.run world argv)
