import StreamQueue.File

/-!
# The folder of a rehearsal

A folder that holds a few files and nothing else. A path is looked up in it part by
part; what lies outside the folder is not there.
-/

namespace StreamQueue.Rehearsal

/-- A folder: its files by name. -/
structure Folder where
  files : List (String × File)
  deriving Repr

namespace Folder

/-- What is found behind the parts of a path, which may have to be a folder. -/
def follow (f : Folder) (asFolder : Bool) : List String → File
  | [] => .directory
  | ".." :: rest => if rest.all (· == "..") then .directory else .absent
  | name :: rest =>
    match f.files.lookup name with
    | none => .absent
    | some (.text s) => if rest.isEmpty && !asFolder then .text s else .obstructed
    | some file => if rest.isEmpty then file else .absent

/-- What is found at a path. -/
def look (f : Folder) (path : String) : File :=
  let parts := Path.parts path
  if path.isEmpty || (path.startsWith "/" && !parts.isEmpty) then .absent
  else f.follow (path.endsWith "/" || path.endsWith "/.") parts

end Folder

end StreamQueue.Rehearsal
