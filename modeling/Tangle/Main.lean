import Tangle.CommandLine

namespace Tangle

/-!
# The program

The files in and below the working directory are read, the command line is
carried out on them, and what that leaves is printed.
-/

/-- Collect what an entry of a directory, reached through some names, holds. -/
partial def collectEntry (names : List String) (store : FileStore) (entry : IO.FS.DirEntry) :
    IO FileStore := do
  let here := names ++ [entry.fileName]
  if ← entry.path.isDir then
    let opened := { store with directories := here :: store.directories }
    (← entry.path.readDir).foldlM (collectEntry here) opened
  else
    let bytes ← IO.FS.readBinFile entry.path
    return { store with files := ⟨here, bytes.toList.map UInt8.toNat⟩ :: store.files }

/-- Collect the files in and below the working directory. -/
def collectSystem : IO FileSystem := do
  let directory ← IO.currentDir
  let store ← (← directory.readDir).foldlM (collectEntry []) ⟨[], []⟩
  return store.inDirectory ((FileStore.parts directory.toString).filter (· != ""))

end Tangle

/-- Carry out the arguments of the program on the files of the working directory. -/
def main (arguments : List String) : IO UInt32 := do
  let result := Tangle.CommandLine.runArguments arguments (← Tangle.collectSystem)
  IO.print result.output
  IO.eprint (Tangle.unlines result.errors)
  return result.exitCode.toUInt32
