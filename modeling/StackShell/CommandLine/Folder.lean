import StackShell.Failure
import StackShell.Table
import StackShell.Text.Lines
import StackShell.Text.Split

/-!
# The working folder

What a run finds in the folder that it works in and around it: what files hold, and which paths are
folders. A path is followed name by name, from the working folder or from the root.
-/

namespace StackShell

/-- What a file holds. -/
inductive Content where
  | text (text : String)
  /-- Bytes that are no text, with the reason that the decoder gives. -/
  | undecodable (reason : Text)
deriving DecidableEq

/-- The files and folders that a run sees. -/
structure Folder where
  /-- What each file holds, by its path. -/
  files : Table Content
  /-- The names of folders; those that hold files need not be listed. -/
  folders : List (List Text)

/-- What stands at the end of a path. -/
inductive PathEnd where
  | file (path : Text) (content : Content)
  | folder
  /-- Nothing is there, but a file of that path can be made. -/
  | vacant (path : Text)
  /-- Nothing is there, and neither is the folder that would hold it. -/
  | missing
  /-- A part of the path before its end is a file. -/
  | blocked

namespace Folder

/-- The text of a path that is given by its names. -/
def joined (names : List Text) : Text :=
  Text.intercalate "/" names

/-- A folder made of paths with what they hold. A path with a slash at its end is a folder. -/
def ofList (entries : List (Text × Content)) : Folder :=
  let isFolder (path : Text) : Bool := path.toList.getLast? == some (.char '/')
  let (folders, files) := entries.partition fun e => isFolder e.1
  { files := .ofList files
    folders := folders.map fun e => (Text.pieces '/' e.1).filter fun name => !name.isEmpty }

/-- The names of the folder that holds a folder. The working folder is held by the one that two dots
stand for, and the root, whose one name is empty, by itself. -/
def holder (here : List Text) : List Text :=
  if here == [("" : Text)] then here
  else if here.all (· == "..") then here ++ [(".." : Text)]
  else here.dropLast

/-- The names that are reached from a folder by one more name. -/
def enter (here : List Text) (name : Text) : List Text :=
  if name.isEmpty || name == "." then here
  else if name == ".." then holder here
  else here ++ [name]

/-- Whether the names lead to a folder. -/
def isFolder (f : Folder) (names : List Text) : Bool :=
  names == [("" : Text)] || names.all (· == "..") || f.folders.any (names.isPrefixOf ·)
    || f.files.keys.any fun path =>
      let whole := Text.pieces '/' path
      names.isPrefixOf whole && names.length < whole.length

/-- Follows names from the folder `here`. -/
def follow (f : Folder) (here : List Text) : List Text → PathEnd
  | [] => .folder
  | name :: rest =>
    let there := enter here name
    if f.isFolder there then f.follow there rest
    else
      match f.files.get? (joined there) with
      | some content => if rest.isEmpty then .file (joined there) content else .blocked
      | none => if rest.isEmpty then .vacant (joined there) else .missing

/-- Where a path starts: at the root, or in the working folder. -/
def start (path : Text) : List Text :=
  if path.toList.head? == some (.char '/') then [""] else []

/-- What stands at the end of a path. -/
def look (f : Folder) (path : Text) : PathEnd :=
  if path.isEmpty then .missing else f.follow (start path) (Text.pieces '/' path)

/-- All that a path passes, its end included. -/
def passed (path : Text) : List (List Text) :=
  let step (row : List (List Text)) (name : Text) : List (List Text) :=
    enter (row.headD (start path)) name :: row
  ((Text.pieces '/' path).foldl step []).reverse

/-- The slashes that a path keeps at its start: two stay two, more are one. -/
def rootOf (path : Text) : Text :=
  match (path.toList.takeWhile (· == .char '/')).length with
  | 0 => ""
  | 2 => "//"
  | _ => "/"

/-- A path without what does not matter: doubled slashes, single dots and a slash at the end. The
empty path stands for the folder itself. -/
def plainPath (path : Text) : Text :=
  let names := (Text.pieces '/' path).filter fun (name : Text) => !name.isEmpty && name != "."
  let plain := rootOf path ++ joined names
  if plain.isEmpty then "." else plain

/-- Whether the plain form of a path leads to a file. -/
def hasFile (f : Folder) (path : Text) : Bool :=
  match f.look (plainPath path) with
  | .file .. => true
  | _ => false

/-- The text of a file, its line ends made plain. -/
def read (f : Folder) (path : Text) : Except Fault Text :=
  match f.look path with
  | .file _ (.text text) => .ok (Text.ofList (Text.plainLineEnds (text : Text).toList))
  | .file _ (.undecodable reason) => .error (.undecodable reason)
  | .folder => .error (.isDirectory path)
  | .vacant _ | .missing => .error (.noSuchFile path)
  | .blocked => .error (.notDirectory path)

/-- The folder with a string in a file. -/
def withFile (f : Folder) (key : Text) (text : String) : Folder :=
  { f with files := f.files.insert key (.text text) }

/-- The folder with a text written to a file. The file is emptied before the text is encoded. -/
def write (f : Folder) (path text : Text) : Except (Fault × Folder) Folder :=
  match f.look path with
  | .file key _ | .vacant key =>
    match text.written with
    | .ok written => .ok (f.withFile key written)
    | .error fault => .error (fault, f.withFile key "")
  | .folder => .error (.isDirectory path, f)
  | .missing => .error (.noSuchFile path, f)
  | .blocked => .error (.notDirectory path, f)

end Folder

end StackShell
