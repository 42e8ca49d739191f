/-
  ScopedEngine.Loader.Linker — opening images and looking up names in them.

  A linker is any function from C strings to images, and an image any function from C strings
  to entry points. `ofFiles` is the linker of a file tree: a bare name is searched in the
  system's own directories and not found there, but one too long for a directory is reported as
  that.
-/

import ScopedEngine.Error
import ScopedEngine.Recorder

namespace ScopedEngine

structure Image where
  /-- How the system names it in its messages. -/
  shown : String
  resolve : Bytes → Option EntryPoint

structure Linker where
  openImage : Bytes → Except OpenFault Image

/-- A final NUL ends a C string; without one it is added. No other NUL may stand in it. -/
def cString? (b : Bytes) : Except CStringFault Bytes :=
  if b.getLast? = some 0 then
    if b.dropLast.contains 0 then .error .nulBeforeLast else .ok b.dropLast
  else if b.contains 0 then .error .nulInside
  else .ok b

namespace Linker

/-- The image of the recording engine. -/
def recorderImage (shown : String) : Image where
  shown := shown
  resolve name := (Recorder.exports.find? fun e => Utf8.ofString e.1 = name).map (·.2)

def ofFiles (files : Files) : Linker where
  openImage path :=
    let shown := Utf8.lossyString path
    if Path.isBare path then
      .error (.path shown (if Files.nameLimit < path.length then .tooLong else .missing))
    else
      match files.find path with
      | .error f => .error (.path shown f)
      | .ok (.directory _) => .error (.directory shown)
      | .ok (.file []) => .error (.tooShort shown)
      | .ok (.file _) => .error (.notImage shown)
      | .ok (.image name) => .ok (recorderImage name)

/-- The image at a path given as bytes. -/
def openPath (l : Linker) (path : Bytes) : Except OpenFault Image :=
  match cString? path with
  | .error f => .error (.name f)
  | .ok p => l.openImage p

end Linker

/-- The entry point of a name given as text. -/
def Image.find (image : Image) (name : String) : Except ResolveFault EntryPoint :=
  match cString? (Utf8.ofString name) with
  | .error f => .error (.name f)
  | .ok n =>
    match image.resolve n with
    | some e => .ok e
    | none => .error (.undefined image.shown (Utf8.lossyString n))

end ScopedEngine
