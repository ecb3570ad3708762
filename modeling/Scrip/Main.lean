import Scrip.Admin

/-!
# The program

The operator's program over books that are new with every run. Passwords are read from the standard
input, as a terminal sends them.
-/

namespace Scrip.Program

/-- All bytes of a stream, after those read before. -/
partial def readRest (stream : IO.FS.Stream) (before : ByteArray) : IO ByteArray := do
  let bytes ← stream.read 4096
  if bytes.isEmpty then return before
  readRest stream (before ++ bytes)

/-- What is typed, as far as it can be read. -/
def readTyped : IO String := do
  let bytes ← readRest (← IO.getStdin) .empty
  return (String.fromUTF8? bytes).getD ""

/-- Sixteen bytes to hash a password with. -/
def newSalt : IO Crypt.Salt := do
  let bytes ← IO.getRandomBytes 16
  if h : bytes.size = 16 then return ⟨bytes, h⟩
  throw (IO.userError "no random bytes")

/-- Runs the operator's program. -/
def runAdmin (words : List String) : IO UInt32 := do
  let place := (← IO.getEnv "DATABASE_URL").getD Admin.defaultPlace
  let events ← if Admin.asksPassword place words then
      some <$> Terminal.Event.readAll <$> readTyped
    else pure none
  let (run, _) := Admin.run place words events (← newSalt) Store.emptyTables
  (← IO.getStderr).putStr run.err
  (← IO.getStdout).putStr run.out
  return run.code.toUInt32

end Scrip.Program

/-- The operator's program. -/
def main (args : List String) : IO UInt32 :=
  Scrip.Program.runAdmin args
