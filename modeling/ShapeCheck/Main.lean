import ShapeCheck.CommandLine

open ShapeCheck

def readContent (path : String) : IO (String × Option ByteArray) := do
  try
    return (path, some (← IO.FS.readBinFile path))
  catch _ =>
    return (path, none)

def main (args : List String) : IO UInt32 := do
  let paths := ((CommandLine.command? args).map (·.paths)).getD []
  let contents ← paths.mapM readContent
  let outcome := CommandLine.run (fun path => (contents.lookup path).join) args
  IO.print outcome.output
  IO.eprint outcome.complaint
  return outcome.code.toUInt32
