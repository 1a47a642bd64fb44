import Rsx.Cache.Entry
import Rsx.FileTree
import Rsx.Options

set_option autoImplicit false

namespace Rsx

structure Cache where
  folder : List String
  fingerprint : String
deriving DecidableEq

namespace Cache

def openAt (digest : List UInt8 → String) (folder : String) (o : Options) (tree : FileTree) :
    FileTree × Except Diagnostic Cache :=
  match tree.makeFolders (Path.ofText folder) with
  | (tree, .ok ()) => (tree, .ok ⟨Path.ofText folder, o.fingerprint digest⟩)
  | (tree, .error e) =>
    (tree, .error (.unlocated Rule.files.code ("Cannot create cache directory: " ++ e.message) folder))

def version : String := "0.1.0"

-- Of everything that decides the output. The path is a part of it: the output names the file, and
-- two paths may share an entry's name.
def hashBytes (c : Cache) (path source : String) : List UInt8 :=
  Options.utf8 version ++ 0 :: (Options.utf8 c.fingerprint ++ 0 ::
    (Options.utf8 path ++ 0 :: Options.utf8 source))

def hash (digest : List UInt8 → String) (c : Cache) (path source : String) : String :=
  digest (c.hashBytes path source)

def flatten (path : String) : String :=
  String.ofList (path.toList.map fun c => if c == '/' || c == '\\' || c == ':' then '_' else c)

def entryPath (c : Cache) (path : String) : List String := c.folder ++ [flatten path ++ ".json"]

def get (digest : List UInt8 → String) (c : Cache) (path source : String) (tree : FileTree) :
    FileTree × Report (Option Output) :=
  match tree.readText (c.entryPath path) with
  | .error _ => (tree, ⟨[], none⟩)
  | .ok json =>
    match CacheEntry.decode json with
    | .error fault =>
      let left := match tree.removeFile (c.entryPath path) with
        | .ok t => t
        | .error _ => tree
      (left, ⟨[.corruptEntry path (fault.message json)], none⟩)
    | .ok entry =>
      (tree, ⟨[], if entry.hash = c.hash digest path source then some entry.output else none⟩)

def set (digest : List UInt8 → String) (c : Cache) (path source : String) (output : Output)
    (tree : FileTree) : FileTree × List Event :=
  let json := CacheEntry.toJson ⟨c.hash digest path source, output⟩
  match tree.writeFile (c.entryPath path) json.toUTF8 with
  | .ok t => (t, [])
  | .error e => (tree, [.entryNotWritten path e.message])

end Cache

end Rsx
