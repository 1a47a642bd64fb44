import Rsx.Diagnostic
import Rsx.Json.Decoder
import Rsx.Sha256

set_option autoImplicit false

namespace Rsx

structure Options where
  extensions : List String          -- endings of the files to compile
  includePattern : Option String
  excludePattern : Option String
  hostModule : String               -- where the host's hooks are imported from
  extraBanned : List String
  sourceMap : Bool
  cacheDir : Option String
deriving DecidableEq

namespace Options

def default : Options := ⟨[".rsx"], none, none, "react", [], true, none⟩

structure Partly where
  extensions : Option (List String)
  includePattern : Option (Option String)
  excludePattern : Option (Option String)
  hostModule : Option String
  extraBanned : Option (List String)
  sourceMap : Option Bool
  cacheDir : Option (Option String)

namespace Partly

open Decoder

def start : Partly := ⟨none, none, none, none, none, none, none⟩

def finish (p : Partly) : Options where
  extensions := p.extensions.getD default.extensions
  includePattern := p.includePattern.getD default.includePattern
  excludePattern := p.excludePattern.getD default.excludePattern
  hostModule := p.hostModule.getD default.hostModule
  extraBanned := p.extraBanned.getD default.extraBanned
  sourceMap := p.sourceMap.getD default.sourceMap
  cacheDir := p.cacheDir.getD default.cacheDir

def field (name : String) (p : Partly) : Option (Decoder Partly) :=
  match name with
  | "extensions" =>
    some (fieldOnce name p.extensions (list text) fun v => { p with extensions := some v })
  | "include" =>
    some (fieldOnce name p.includePattern (nullable text) fun v => { p with includePattern := some v })
  | "exclude" =>
    some (fieldOnce name p.excludePattern (nullable text) fun v => { p with excludePattern := some v })
  | "hostModule" => some (fieldOnce name p.hostModule text fun v => { p with hostModule := some v })
  | "extraBanned" =>
    some (fieldOnce name p.extraBanned (list text) fun v => { p with extraBanned := some v })
  | "sourceMap" => some (fieldOnce name p.sourceMap boolean fun v => { p with sourceMap := some v })
  | "cacheDir" =>
    some (fieldOnce name p.cacheDir (nullable (string "path string")) fun v =>
      { p with cacheDir := some v })
  | _ => none

def items : List (Partly → Decoder Partly) :=
  [fun p => return { p with extensions := some (← list text) },
    fun p => return { p with includePattern := some (← nullable text) },
    fun p => return { p with excludePattern := some (← nullable text) },
    fun p => return { p with hostModule := some (← text) },
    fun p => return { p with extraBanned := some (← list text) },
    fun p => return { p with sourceMap := some (← boolean) },
    fun p => return { p with cacheDir := some (← nullable (string "path string")) }]

def shape : Shape Partly := ⟨"struct CompileOptions", start, field, items, false⟩

end Partly

def decode (json : String) : Except JsonFault Options :=
  Decoder.run (Decoder.record Partly.shape fun p => return p.finish) json

def refusal (message : String) : Diagnostic := .unlocated Rule.options.code message "<options>"

def isBlankText (s : String) : Bool := s.toList.all Text.isWhite

def validate (o : Options) : Except Diagnostic Unit :=
  if o.extensions.isEmpty then .error (refusal "At least one file extension is required.")
  else if isBlankText o.hostModule then .error (refusal "hostModule must not be empty.")
  else .ok ()

-- Blank text means the defaults.
def ofJson (json : String) : Except Diagnostic Options :=
  if isBlankText json then .ok default
  else
    match decode json with
    | .error fault =>
      let (line, column) := fault.position json
      .error (.new Rule.options.code ("Invalid compiler options: " ++ fault.message json) "<options>"
        line column)
    | .ok o =>
      match o.validate with
      | .error d => .error d
      | .ok () => .ok o

def utf8 (s : String) : List UInt8 := s.toUTF8.toList

-- What the fingerprint is taken of: the fields in order, with marks between them.
def fingerprintBytes (o : Options) : List UInt8 :=
  utf8 ("\x00".intercalate o.extensions) ++ 0xff ::
    (utf8 (o.includePattern.getD "") ++ 0xff ::
      (utf8 (o.excludePattern.getD "") ++ 0xff ::
        (utf8 o.hostModule ++ 0xff ::
          (utf8 ("\x00".intercalate o.extraBanned) ++ [if o.sourceMap then 1 else 0]))))

def fingerprint (digest : List UInt8 → String) (o : Options) : String := digest o.fingerprintBytes

end Options

end Rsx
