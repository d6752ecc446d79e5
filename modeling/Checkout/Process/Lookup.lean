import Checkout.FileSystem.Resolve

/-!
# Finding programs

A program whose name is a path name of several components is looked for there, any other one in the
directories of a search path. A program is a file that may be executed.
-/

namespace Checkout.Lookup

/-- Permission bits of which one lets a file be executed. -/
def executeBits : Nat := 0o111

/-- A path name leads to a file that may be executed. -/
def isProgram (fs : FileSystem) (here : Location) (path : ByteString) : Bool :=
  match fs.locate here path with
  | .ok (_, .file _ mode) => mode &&& executeBits != 0
  | _ => false

/-- The byte that separates the directories of a search path. -/
def colon : UInt8 := 0x3A

/-- A directory of a search path. A tilde as its first name stands for the home directory. -/
def searchDir (home dir : ByteString) : ByteString :=
  if (Pathname.components dir).head? = some (.name "~") then
    Pathname.join home (ByteString.intercalate "/" ((Pathname.names dir).drop 1))
  else dir

/-- The path names at which a program may be. Without a search path there are none for a bare
name. -/
def candidates (home : ByteString) (searchPath : Option ByteString) (program : ByteString) :
    List ByteString :=
  if 1 < (Pathname.components program).length then [program]
  else
    match searchPath with
    | none => []
    | some dirs => (dirs.toList.splitOn colon).map fun dir =>
      Pathname.join (searchDir home (.ofList dir)) program

/-- A program can be found. -/
def isAvailable (fs : FileSystem) (here : Location) (home : ByteString)
    (searchPath : Option ByteString) (program : ByteString) : Bool :=
  (candidates home searchPath program).any (isProgram fs here)

end Checkout.Lookup
