import AuctionHooks.Program

/-!
# The executable

Finds out what there is on disk and in the environment, lets `Program.run` decide, and does what it
says.  Of a directory only those files are read that can take part in its configuration.
-/

open AuctionHooks

/-- A file, by its bytes. -/
def fileOfBytes (bytes : ByteArray) : FileTree :=
  match String.fromUTF8? bytes with
  | some content => .text content
  | none => .binary

/-- Finds out what there is under a path, and in it if it is a directory. -/
def findFileTree (path : String) : IO (Option FileTree) := do
  let found ← IO.FS.realPath path
  if ← found.isDir then
    let entries ← (← found.readDir).toList.mapM fun entry => do
      if ← entry.path.isDir then pure (entry.fileName, FileTree.directory [])
      else if ConfigLoader.isConfigName entry.fileName then
        pure (entry.fileName, fileOfBytes (← IO.FS.readBinFile entry.path))
      else pure (entry.fileName, FileTree.binary)
    pure (some (.directory entries))
  else if path.isEmpty || !(← found.pathExists) then pure none
  else some <$> fileOfBytes <$> IO.FS.readBinFile path

/-- Runs the program. -/
def main (arguments : List String) : IO UInt32 := do
  let configVariable ← IO.getEnv "OPENBID_HOOKS_CONFIG"
  let filterVariable ← IO.getEnv "RUST_LOG"
  let bare : Program.Surroundings :=
    { arguments, configVariable, filterVariable, disk := fun _ => none }
  let tree ← findFileTree bare.configPath
  let verdict := Program.run { bare with disk := fun _ => tree }
  for line in verdict.log do
    IO.println line.text
  for line in verdict.errors do
    IO.eprintln line
  pure verdict.exitCode.toUInt32
