import Docket.Command.Program
import Docket.Json.Pretty
import Std.Time.DateTime.Timestamp

/-!
# The command line program

The outer layer: it looks at files, draws identifiers, reads the clock and prints.  It listens
nowhere and knows no database, so commands that need one end as if it could not be reached.
-/

namespace Docket

def readText (path : String) : IO (Except ReadFault String) := do
  try
    let bytes ← IO.FS.readBinFile path
    match String.fromUTF8? bytes with
    | some text => return .ok text
    | none => return .error .notText
  catch
    | .noFileOrDirectory .. => return .error .missing
    | .inappropriateType .. => return .error .isDirectory
    | e => return .error (.other (toString e))

/-- Whether a path leads to a file. -/
def leadsToFile (path : String) : IO Bool := do
  try
    let place ← IO.FS.realPath path
    return (← place.pathExists) && !(← place.isDir)
  catch _ => return false

def namesIn (path : String) : IO (Option (List String)) := do
  try
    let entries ← (← IO.FS.realPath path).readDir
    return some (entries.toList.map fun e => e.fileName)
  catch _ => return none

/-- A random identifier. -/
def drawUuid : IO Uuid := do
  let bytes ← IO.getRandomBytes 16
  let n := bytes.toList.foldl (fun n b => n * 256 + b.toNat) 0
  let free := BitVec.ofNat 128 n &&& ~~~(0xf000c000000000000000#128)
  return ⟨free ||| 0x40008000000000000000#128⟩

def clock : IO Instant := do
  let nanos := (← Std.Time.Timestamp.now).toNanosecondsSinceUnixEpoch.toInt
  let seconds := nanos / 1000000000
  return { day := seconds / 86400, second := (seconds % 86400).toNat,
           nano := (nanos % 1000000000).toNat }

/-- The machine that the program runs on. -/
def machine : Host IO :=
  { read := readText, isFile := leadsToFile, names := namesIn, fresh := drawUuid, now := clock,
    database := fun _ => return none, listen := fun _ _ => return false }

/-- Prints how the program ends. -/
def Ending.print (e : Ending) : IO Unit := do
  match e.output with
  | .lines lines => lines.forM IO.println
  | .report value => IO.println value.pretty
  match e.complaint with
  | none => pure ()
  | some c =>
    IO.eprintln ("Error: " ++ c.text)
    if !c.causes.isEmpty then
      IO.eprintln "\nCaused by:"
      c.causes.forM fun cause => IO.eprintln ("    " ++ cause)

end Docket

/-- Runs the program on the words of its command line. -/
def main (words : List String) : IO UInt32 := do
  let env ← Docket.Command.standIns.mapM fun name => return (name, ← IO.getEnv name)
  let ending ← Docket.Program.start Docket.machine (fun name => (env.lookup name).join) words
  ending.print
  return ending.code.toUInt32
