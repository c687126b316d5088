import DriverDesk.Command.Run

/-!
# The program

Loads the files around the working folder, lets the command answer its arguments,
and prints the answer.
-/

namespace DriverDesk

/-- The node of a file or folder of the system, and everything below it to a given
depth. What cannot be read is left out. -/
partial def loadEntry (entry : IO.FS.DirEntry) : Nat → IO (Option FileNode)
  | depth => do
    try
      if ← entry.path.isDir then
        if depth = 0 then return some (.folder [])
        let mut entries := #[]
        for below in ← entry.path.readDir do
          if let some node ← loadEntry below (depth - 1) then
            entries := entries.push (below.fileName, node)
        return some (.folder entries.toList)
      else
        let octets ← IO.FS.readBinFile entry.path
        return some (.file octets.toList)
    catch _ => return none

/-- How many folders deep files are looked for. -/
def loadDepth : Nat := 6

/-- The tree of the files in and below a folder. -/
def loadTree (folder : String) : IO FileTree := do
  let place := (FileTree.segmentsOf ⟨folder⟩).filter (· != "")
  let some node ← loadEntry ⟨folder, ""⟩ loadDepth
    | return ⟨.folder [], place⟩
  return ⟨FileNode.put (.folder []) place node, place⟩

/-- Put the files around a path that leads out of the working folder into a tree. -/
def loadPath (t : FileTree) (p : Path) : IO FileTree := do
  if t.has p then return t
  try
    let real ← IO.FS.realPath p.text
    let folder : Path := ⟨real.toString⟩
    let folder := if ← real.isDir then folder else folder.parent?.getD folder
    let outside ← loadTree folder.text
    let some node := outside.root.at? outside.working | return t
    return { t with root := t.root.put outside.working node }
  catch _ => return t

end DriverDesk

open DriverDesk

def main (arguments : List String) : IO UInt32 := do
  let folder ← IO.currentDir
  let mut tree ← loadTree folder.toString
  for word in arguments do
    tree ← loadPath tree ⟨word⟩
  let reply := Command.run tree arguments
  IO.print reply.out
  if let some message := reply.error? then
    IO.eprintln ((if reply.code = 2 then "error: " else "Error: ") ++ message)
  return UInt32.ofNat reply.code
