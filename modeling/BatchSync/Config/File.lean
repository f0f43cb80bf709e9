import BatchSync.Config.Document

/-!
# Configuration files

A path leads to the bytes of a file or to a refusal by the system. Bytes that are not UTF-8 are no
text and so no configuration.
-/

namespace BatchSync

/-- Why the system gives no file for a path. -/
inductive FileRefusal where
  | notFound
  | isDirectory
  | nameTooLong
  | nulInName
  deriving DecidableEq

/-- The system's wording of a refusal. -/
def FileRefusal.message : FileRefusal → String
  | .notFound => "No such file or directory (os error 2)"
  | .isDirectory => "Is a directory (os error 21)"
  | .nameTooLong => "File name too long (os error 36)"
  | .nulInName => "file name contained an unexpected NUL byte"

/-- Whether a path leads to a directory wherever it starts: it goes only up, or nowhere, or to the
root, or to the place for temporary files. -/
def leadsToDirectory (parts : List String) (isAbsolute : Bool) : Bool :=
  let named := parts.filter fun part => part != "" && part != "." && part != ".."
  named.isEmpty || (isAbsolute && named == ["tmp"])

/-- Why a path that leads to no file is refused. -/
def FileRefusal.ofPath (path : String) : FileRefusal :=
  let parts := path.splitOn "/"
  if path.toList.contains '\x00' then .nulInName
  else if path = "" then .notFound
  else if 4095 < path.utf8ByteSize ∨ parts.any (fun part => decide (255 < part.utf8ByteSize)) then
    .nameTooLong
  else if leadsToDirectory parts (path.front == '/') then .isDirectory
  else .notFound

/-- Reads settings from the bytes of a file, or reports why there are none. -/
def CoreConfig.ofFile (path : String) (content : Except FileRefusal ByteArray) :
    Except ConfigError CoreConfig :=
  match content with
  | .error refusal => .error (.unreadable path refusal.message)
  | .ok bytes =>
    match Text.decodeUtf8 bytes with
    | .error _ => .error (.unreadable path "stream did not contain valid UTF-8")
    | .ok text => CoreConfig.ofText text

end BatchSync
