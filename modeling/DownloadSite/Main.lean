import DownloadSite.Program

/-!
# The command line program

Runs the program on the real files. Log lines carry the seconds of the system's clock.
-/

namespace DownloadSite

/-- The fault that the system reports. -/
def FileFault.ofSystem : IO.Error → FileFault
  | .noFileOrDirectory .. => .missing
  | .alreadyExists .. => .alreadyExists
  | .inappropriateType _ code _ => if code = 21 then .isDirectory else .notDirectory
  -- two kinds of paths are invalid: those with a NUL, and those with a name that is too long
  | .invalidArgument _ code _ => if code = 22 then .nulInPath else .nameTooLong
  | fault => .other (toString fault)

def attempt {alpha : Type} (step : IO alpha) : IO (Except FileFault alpha) := do
  try return .ok (← step)
  catch fault => return .error (FileFault.ofSystem fault)

instance : FileAccess IO where
  makeDirectory path := attempt (IO.FS.createDir path)
  isDirectory path := do
    -- a directory refuses to be created anew below itself
    match ← attempt (IO.FS.createDir (Path.join path ".")) with
    | .error .alreadyExists => return true
    | _ => return false
  isPresent path := do
    match ← attempt (IO.FS.Handle.mk path .read) with
    | .ok _ => return true
    | .error _ => return false
  read path := attempt (IO.FS.readBinFile path)
  write path content := attempt (IO.FS.writeBinFile path content)

end DownloadSite

open DownloadSite in
/-- Prints what a run shows and ends with its exit status. -/
def main (words : List String) : IO UInt32 := do
  let seconds := (← IO.monoMsNow) / 1000
  let shown : Shown ←
    runUnder (← IO.getEnv "RUST_LOG") words "no browser can be started" (toString seconds)
  (← IO.getStdout).putStr shown.stdout
  (← IO.getStderr).putStr shown.stderr
  return shown.exit.toUInt32
