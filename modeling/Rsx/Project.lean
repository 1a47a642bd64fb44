import Rsx.Cache
import Rsx.Compile

set_option autoImplicit false

namespace Rsx

structure ProjectEntry where
  path : String
  output : Option Output
  error : Option Diagnostic
  cached : Bool
deriving DecidableEq

def ProjectEntry.isOk (e : ProjectEntry) : Bool := e.error.isNone

namespace Project

def skippedFolders : List String := ["node_modules", ".git", "dist", "target"]

def isEntered (folder : String) : Bool := !skippedFolders.contains folder

def sourcesOf (filter : FileFilter) (root : String) (tree : FileTree) : List (List String) :=
  ((tree.filesBelow isEntered).filter fun path => filter.accepts (Path.join root path)).mergeSort
    Path.atMost

def discover (o : Options) (root : String) (tree : FileTree) :
    Except Diagnostic (List (List String)) :=
  match tree.find (Path.ofText root), root.isEmpty with
  | .ok top, false => do
    let filter ← FileFilter.ofOptions o
    return sourcesOf filter root top
  | _, _ => .error (.unlocated Rule.files.code "Project root does not exist." root)

def compileAnew (digest : List UInt8 → String) (o : Options) (cache : Option Cache)
    (path source : String) (tree : FileTree) : FileTree × Report ProjectEntry :=
  let report := compile o path source
  match report.result with
  | .error d => (tree, ⟨report.events, ⟨path, none, some d, false⟩⟩)
  | .ok output =>
    let entry : ProjectEntry := ⟨path, some output, none, false⟩
    match cache with
    | none => (tree, ⟨report.events, entry⟩)
    | some c =>
      let (tree, events) := c.set digest path source output tree
      (tree, ⟨report.events ++ events, entry⟩)

def compileSource (digest : List UInt8 → String) (o : Options) (cache : Option Cache)
    (path source : String) (tree : FileTree) : FileTree × Report ProjectEntry :=
  match cache with
  | none => compileAnew digest o none path source tree
  | some c =>
    match c.get digest path source tree with
    | (tree, ⟨events, some output⟩) => (tree, ⟨events, ⟨path, some output, none, true⟩⟩)
    | (tree, ⟨events, none⟩) =>
      let (tree, report) := compileAnew digest o (some c) path source tree
      (tree, ⟨events ++ report.events, report.result⟩)

def compileFile (digest : List UInt8 → String) (o : Options) (cache : Option Cache) (path : String)
    (tree : FileTree) : FileTree × Report ProjectEntry :=
  match tree.readText (Path.ofText path) with
  | .ok source => compileSource digest o cache path source tree
  | .error e =>
    let d := Diagnostic.unlocated Rule.files.code ("Failed to read file: " ++ e.message) path
    (tree, ⟨[], ⟨path, none, some d, false⟩⟩)

def compileFiles (digest : List UInt8 → String) (o : Options) (cache : Option Cache) :
    List String → FileTree → FileTree × Report (List ProjectEntry)
  | [], tree => (tree, ⟨[], []⟩)
  | path :: paths, tree =>
    let (tree, first) := compileFile digest o cache path tree
    let (tree, rest) := compileFiles digest o cache paths tree
    (tree, ⟨first.events ++ rest.events, first.result :: rest.result⟩)

def openCache (digest : List UInt8 → String) (o : Options) (tree : FileTree) :
    FileTree × Except Diagnostic (Option Cache) :=
  match o.cacheDir with
  | none => (tree, .ok none)
  | some folder =>
    let (tree, opened) := Cache.openAt digest folder o tree
    (tree, opened.map some)

def summary (root : String) (entries : List ProjectEntry) : Event :=
  .projectCompiled root entries.length (entries.countP fun e => !e.isOk)
    (entries.countP fun e => e.cached)

def compileAll (digest : List UInt8 → String) (o : Options) (root : String) (tree : FileTree) :
    FileTree × Report (Except Diagnostic (List ProjectEntry)) :=
  match discover o root tree with
  | .error d => (tree, ⟨[], .error d⟩)
  | .ok files =>
    match openCache digest o tree with
    | (tree, .error d) => (tree, ⟨[], .error d⟩)
    | (tree, .ok cache) =>
      let (tree, report) := compileFiles digest o cache (files.map (Path.join root)) tree
      (tree, ⟨report.events ++ [summary root report.result], .ok report.result⟩)

end Project

end Rsx
