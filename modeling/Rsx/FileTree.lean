set_option autoImplicit false

namespace Rsx

inductive FileError where
  | notFound
  | alreadyThere
  | notFolder
  | isFolder
  | nameTooLong
  | nulInName
  | notText
deriving DecidableEq

def FileError.message : FileError → String
  | notFound => "No such file or directory (os error 2)"
  | alreadyThere => "File exists (os error 17)"
  | notFolder => "Not a directory (os error 20)"
  | isFolder => "Is a directory (os error 21)"
  | nameTooLong => "File name too long (os error 36)"
  | nulInName => "file name contained an unexpected NUL byte"
  | notText => "stream did not contain valid UTF-8"

namespace Path

def pieces : List Char → List (List Char)
  | [] => [[]]
  | c :: cs =>
    if c == '/' then [] :: pieces cs
    else
      match pieces cs with
      | p :: ps => (c :: p) :: ps
      | [] => [[c]]

-- A slash at the end stands for `/.`, one at the start is a part of its own.
def ofText (text : String) : List String :=
  let cs := text.toList
  let names := ((pieces cs).filter fun p => !p.isEmpty).map String.ofList
  (if cs.head? == some '/' then ["/"] else []) ++ names
    ++ (if cs.getLast? == some '/' && !names.isEmpty then ["."] else [])

def join (root : String) (below : List String) : String :=
  if below.isEmpty then root
  else root ++ (if root.toList.getLast? == some '/' then "" else "/") ++ "/".intercalate below

def size (path : List String) : Nat := path.foldl (fun n p => n + p.utf8ByteSize + 1) 0

def atMost : List String → List String → Bool
  | [], _ => true
  | _ :: _, [] => false
  | a :: as, b :: bs => if a == b then atMost as bs else decide (a < b)

-- No system call takes a path that is longer, or that has a NUL in it.
def check (path : List String) : Except FileError Unit :=
  if path.any fun p => p.toList.contains '\x00' then .error .nulInName
  else if size path > 4096 then .error .nameTooLong
  else .ok ()

end Path

inductive FileTree where
  | file (content : ByteArray)
  | folder (entries : List (String × FileTree))

namespace FileTree

def empty : FileTree := .folder []

def isFolder : FileTree → Bool
  | folder _ => true
  | file _ => false

def child? (name : String) : FileTree → Option FileTree
  | folder entries => entries.lookup name
  | file _ => none

def get? : List String → FileTree → Option FileTree
  | [], t => some t
  | name :: names, t =>
    match t.child? name with
    | some below => get? names below
    | none => none

def setEntry (name : String) (new : Option FileTree) :
    List (String × FileTree) → List (String × FileTree)
  | [] =>
    match new with
    | some t => [(name, t)]
    | none => []
  | (n, t) :: rest =>
    if n == name then
      match new with
      | some t => (name, t) :: rest
      | none => rest
    else (n, t) :: setEntry name new rest

def set (new : Option FileTree) : List String → FileTree → FileTree
  | [], t => new.getD t
  | _ :: _, file content => file content
  | [name], folder entries => folder (setEntry name new entries)
  | name :: names, folder entries =>
    match entries.lookup name with
    | some t => folder (setEntry name (some (set new names t)) entries)
    | none => folder entries

mutual
def filesBelow (enter : String → Bool) : FileTree → List (List String)
  | file _ => [[]]
  | folder entries => filesIn enter entries
termination_by structural t => t

def filesIn (enter : String → Bool) : List (String × FileTree) → List (List String)
  | [] => []
  | (name, t) :: rest =>
    (if t.isFolder && !enter name then [] else (filesBelow enter t).map (name :: ·))
      ++ filesIn enter rest
termination_by structural entries => entries
end

def longestName : Nat := 255

def follow (t : FileTree) : List String → List String → Except FileError (List String)
  | here, [] => .ok here
  | here, part :: parts =>
    match t.get? here with
    | some (folder entries) =>
      if part == "." then follow t here parts
      else if part == ".." then follow t here.dropLast parts
      else if part.utf8ByteSize > longestName then .error .nameTooLong
      else if (entries.lookup part).isNone then .error .notFound
      else follow t (here ++ [part]) parts
    | some (file _) => .error .notFolder
    | none => .error .notFound

def find (path : List String) (t : FileTree) : Except FileError FileTree := do
  Path.check path
  let place ← follow t [] path
  match t.get? place with
  | some found => return found
  | none => throw .notFound

def readText (path : List String) (t : FileTree) : Except FileError String := do
  match ← t.find path with
  | file content =>
    match String.fromUTF8? content with
    | some text => return text
    | none => throw .notText
  | folder _ => throw .isFolder

def placeForFile (path : List String) (t : FileTree) : Except FileError (List String) := do
  Path.check path
  let inside ← follow t [] path.dropLast
  match path.getLast?, t.get? inside with
  | some name, some (folder entries) =>
    if name == "." || name == ".." then throw .isFolder
    else if name.utf8ByteSize > longestName then throw .nameTooLong
    else if (entries.lookup name).any isFolder then throw .isFolder
    else return inside ++ [name]
  | some _, some (file _) => throw .notFolder
  | _, _ => throw .notFound

def writeFile (path : List String) (content : ByteArray) (t : FileTree) :
    Except FileError FileTree := do
  let place ← t.placeForFile path
  return t.set (some (.file content)) place

def removeFile (path : List String) (t : FileTree) : Except FileError FileTree := do
  match ← t.find path with
  | file _ => return t.set none (← follow t [] path)
  | folder _ => throw .isFolder

def remove (path : List String) (t : FileTree) : Except FileError FileTree := do
  let _ ← t.find path
  match ← follow t [] path with
  | [] => throw .notFound
  | place => return t.set none place

-- Makes what is missing on the way; what was made before a failure stays.
def makeFrom : List String → List String → FileTree → FileTree × Except FileError Unit
  | _, [], t => (t, .ok ())
  | here, part :: parts, t =>
    if part == "." then makeFrom here parts t
    else if part == ".." then makeFrom here.dropLast parts t
    else if part.utf8ByteSize > longestName then (t, .error .nameTooLong)
    else
      match t.get? (here ++ [part]) with
      | some (folder _) => makeFrom (here ++ [part]) parts t
      | some (file _) => (t, .error (if parts.all (· == ".") then .alreadyThere else .notFolder))
      | none => makeFrom (here ++ [part]) parts (t.set (some empty) (here ++ [part]))

def makeFolders (path : List String) (t : FileTree) : FileTree × Except FileError Unit :=
  match Path.check path with
  | .ok () => makeFrom [] path t
  | .error e => (t, .error e)

def listing (path : List String) (t : FileTree) : List String :=
  match t.find path with
  | .ok (folder entries) =>
    ((filesIn (fun _ => true) entries).map "/".intercalate).mergeSort fun a b => decide (a ≤ b)
  | _ => []

end FileTree

end Rsx
