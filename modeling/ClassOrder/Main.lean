/-
Module: ClassOrder.Main
Purpose: The command line. All files that a run can ask for are read first; the run itself is a
  pure function of them.
Main exports: main
-/
import ClassOrder.CommandLine

namespace ClassOrder

/-- The cause of a failed read. -/
def fileError : IO.Error → FileError
  | .permissionDenied .. => .permissionDenied
  | .inappropriateType _ 21 _ => .isDirectory
  | .inappropriateType .. => .notDirectory
  | .invalidArgument .. => .nameTooLong
  | _ => .notFound

/-- Read files into a table by path. -/
def readTexts (paths : List String) : IO (List (String × Except FileError Bytes)) :=
  paths.mapM fun (path : String) => do
    try
      return (path, .ok (← IO.FS.readBinFile path).data.toList)
    catch error =>
      return (path, .error (fileError error))

/-- The path of the source file that a manifest is about, if the manifest can be used. -/
def sourcePath? (library : Library) (entry : String × Except FileError Bytes) :
    Option String := do
  let text ← entry.2.toOption
  let manifest ← (Manifest.ofText library text).toOption
  return manifest.sourcePath library (library.parentPath entry.1)

/-- Read everything that a run with these options can ask for. -/
def readFiles (library : Library) (options : Options) : IO Files := do
  let documents ← readTexts (options.configPath :: options.inputs)
  let sources ← readTexts (documents.filterMap (sourcePath? library))
  return fun path => ((documents ++ sources).lookup path).getD (.error .notFound)

end ClassOrder

/-- Check the manifests that the command line names. -/
def main (arguments : List String) : IO UInt32 := do
  let errors ← IO.getStderr
  match ClassOrder.Options.ofArguments arguments with
  | .error error =>
      errors.putStrLn error.message
      return 1
  | .ok options =>
      let library := ClassOrder.Library.standard
      let workspace := ClassOrder.Workspace.ofFiles library (← ClassOrder.readFiles library options)
      let outcome := workspace.audit options { isTerminal := ← errors.isTty }
      errors.write (ByteArray.mk outcome.text.toArray)
      return outcome.exitCode.toUInt32
