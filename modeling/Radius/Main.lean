-- SUMMARY: The program: files from the disk, the session of the command line, and datagrams from the standard input.
import Radius.Command.Session
import Radius.Digest.Md5
import Radius.Server.Exchange

/-!
# The program

The files that the command line asks for are read first, the session decides what to
do with them, and what it decided is carried out. A server that is set up takes
datagrams from the standard input and gives its replies on the standard output, one
line each.
-/

namespace Radius.Program

/-! ## Files -/

/-- Enter what stands at a path on the disk. -/
def probe (tree : FileTree) (path : String) : IO FileTree := do
  let place := tree.placeOf path
  try
    return tree.addFile place (← IO.FS.readBinFile path).toList
  catch
    | .noFileOrDirectory .. => return tree
    | _                     => return tree.addDirectory place

/-- Enter a dictionary and what it includes, as deep as `depth`. -/
def probeDictionary : (depth : Nat) → FileTree → (path : String) → IO FileTree
  | 0, tree, _ => return tree
  | depth + 1, tree, path => do
      let tree ← probe tree path
      match tree.read path with
      | .error _  => return tree
      | .ok bytes =>
          (Dictionary.inclusions bytes).foldlM (fun tree target =>
            probeDictionary depth tree (Path.join ((Path.parent? path).getD "") target)) tree

/-- Enter the files that a configuration is made of. -/
def probeConfig (tree : FileTree) (path : String) : IO FileTree := do
  let directory := (Path.parent? path).getD ""
  let tree ← if directory = "" then pure tree else probe tree directory
  let tree ← probe tree path
  match Config.load tree path with
  | .error _  => return tree
  | .ok config =>
      config.dictionaryPath.elim (pure tree) (probeDictionary (maxIncludeDepth + 2) tree)

/-- The files that a command line asks for. -/
def snapshot (arguments : List String) : IO FileTree := do
  let tree := FileTree.new ((FileTree.new []).placeOf (← IO.currentDir).toString)
  match CommandRequest.ofArguments arguments with
  | .run invocation => probeConfig tree invocation.configPath
  | _               => return tree

/-- Write what a session changed at a path. -/
def writeBack (before after : FileTree) (path : String) : IO Unit := do
  match after.read path with
  | .error _  => return ()
  | .ok bytes =>
      if (before.read path).toOption ≠ some bytes then
        IO.FS.writeBinFile path (ByteArray.mk bytes.toArray)

/-! ## Serving -/

/-- Answer the datagrams of the standard input. -/
partial def serve (server : Server) (filter : LogFilter) (clock : DedupClock) (last : Nat) :
    IO Unit := do
  let line ← (← IO.getStdin).getLine
  if line.isEmpty then return ()
  let now ← IO.monoMsNow
  let clock := (clock.advance (now - last)).expire
  match Exchange.parse? line.trimAscii.toString with
  | none => serve server filter clock now
  | some (remote, datagram) =>
      let (verdict, warnings, clock) := server.serve Md5.digest clock remote datagram
      for entry in (warnings.map HandlerWarning.entry).filter filter.shows do
        IO.println entry.line
      if let .reply reply := verdict then IO.println (Exchange.line remote reply)
      serve server filter clock now

end Radius.Program

open Radius in
def main (arguments : List String) : IO UInt32 := do
  let tree ← Program.snapshot arguments
  let session := Session.run tree arguments
  if let .run invocation := CommandRequest.ofArguments arguments then
    Program.writeBack tree session.files invocation.configPath
  session.output.forM IO.println
  session.faults.forM IO.eprintln
  session.shownLog.forM (fun entry => IO.println entry.line)
  match session.ending with
  | .exit code => return code.toUInt32
  | .serving server =>
      Program.serve server session.filter server.clock (← IO.monoMsNow)
      return 0
