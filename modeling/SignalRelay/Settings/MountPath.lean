import SignalRelay.Text.Blank

namespace SignalRelay

/-!
# Mount paths

The path under which the relay answers, in its normal form: the root is a single slash,
any other path has one slash in front and none at its end.
-/

namespace MountPath

/-- Whether a character is a slash. -/
def isSlash (c : Char) : Bool :=
  c == '/'

/-- A path without white space at its ends, and then without slashes at its ends. -/
def bare (path : String) : List Char :=
  Blank.stripWhile isSlash (Blank.stripWhile Blank.isBlank path.toList)

/-- The normal form of a path. -/
def normalize (path : String) : String :=
  String.ofList ('/' :: bare path)

/-- The path of the socket below the mount path. -/
def socketPath : String := "/peerjs"

/--
A path below a mount path: a slash at the end of the mount path is the one in front of the
path.
-/
def below (mount path : String) : String :=
  let chars := mount.toList
  String.ofList (if chars.getLast? == some '/' then chars.dropLast else chars) ++ path

end MountPath

end SignalRelay
