import Rsx.Event
import Rsx.Json.Decoder
import Rsx.Text.Quoted

set_option autoImplicit false

namespace Rsx

open Decoder

structure CacheEntry where
  hash : String
  output : Output
deriving DecidableEq

def jsonField (name value : String) : String := Text.quoted name ++ ":" ++ value

def jsonObject (fields : List String) : String := "\x7b" ++ ",".intercalate fields ++ "\x7d"

def jsonText? : Option String → String
  | some text => Text.quoted text
  | none => "null"

def jsonBool (b : Bool) : String := if b then "true" else "false"

def Warning.toJson (w : Warning) : String :=
  jsonObject
    [jsonField "code" (Text.quoted w.code), jsonField "message" (Text.quoted w.message),
      jsonField "file" (Text.quoted w.file), jsonField "line" (toString w.line),
      jsonField "column" (toString w.column), jsonField "context" (jsonText? w.context)]

def Output.toJson (o : Output) : String :=
  jsonObject
    [jsonField "code" (Text.quoted o.code), jsonField "map" (jsonText? o.map),
      jsonField "warnings" ("[" ++ ",".intercalate (o.warnings.map Warning.toJson) ++ "]"),
      jsonField "transformed" (jsonBool o.transformed)]

def CacheEntry.toJson (e : CacheEntry) : String :=
  jsonObject [jsonField "hash" (Text.quoted e.hash), jsonField "output" e.output.toJson]

structure PartlyWarning where
  code : Option String
  message : Option String
  file : Option String
  line : Option Nat
  column : Option Nat
  context : Option (Option String)

namespace PartlyWarning

def field (name : String) (p : PartlyWarning) : Option (Decoder PartlyWarning) :=
  match name with
  | "code" => some (fieldOnce name p.code text fun v => { p with code := some v })
  | "message" => some (fieldOnce name p.message text fun v => { p with message := some v })
  | "file" => some (fieldOnce name p.file text fun v => { p with file := some v })
  | "line" => some (fieldOnce name p.line natural32 fun v => { p with line := some v })
  | "column" => some (fieldOnce name p.column natural32 fun v => { p with column := some v })
  | "context" => some (fieldOnce name p.context (nullable text) fun v => { p with context := some v })
  | _ => none

def items : List (PartlyWarning → Decoder PartlyWarning) :=
  [fun p => return { p with code := some (← text) },
    fun p => return { p with message := some (← text) },
    fun p => return { p with file := some (← text) },
    fun p => return { p with line := some (← natural32) },
    fun p => return { p with column := some (← natural32) },
    fun p => return { p with context := some (← nullable text) }]

def shape : Shape PartlyWarning :=
  ⟨"struct CompilerWarning", ⟨none, none, none, none, none, none⟩, field, items, true⟩

def finish (p : PartlyWarning) : Decoder Warning := do
  let code ← required "code" p.code
  let message ← required "message" p.message
  let file ← required "file" p.file
  let line ← required "line" p.line
  let column ← required "column" p.column
  return ⟨code, message, file, line, column, p.context.getD none⟩

end PartlyWarning

def Decoder.warning : Decoder Warning := record PartlyWarning.shape PartlyWarning.finish

structure PartlyOutput where
  code : Option String
  map : Option (Option String)
  warnings : Option (List Warning)
  transformed : Option Bool

namespace PartlyOutput

def field (name : String) (p : PartlyOutput) : Option (Decoder PartlyOutput) :=
  match name with
  | "code" => some (fieldOnce name p.code text fun v => { p with code := some v })
  | "map" => some (fieldOnce name p.map (nullable text) fun v => { p with map := some v })
  | "warnings" => some (fieldOnce name p.warnings (list warning) fun v => { p with warnings := some v })
  | "transformed" =>
    some (fieldOnce name p.transformed boolean fun v => { p with transformed := some v })
  | _ => none

def items : List (PartlyOutput → Decoder PartlyOutput) :=
  [fun p => return { p with code := some (← text) },
    fun p => return { p with map := some (← nullable text) },
    fun p => return { p with warnings := some (← list warning) },
    fun p => return { p with transformed := some (← boolean) }]

def shape : Shape PartlyOutput :=
  ⟨"struct CompileOutput", ⟨none, none, none, none⟩, field, items, true⟩

def finish (p : PartlyOutput) : Decoder Output := do
  let code ← required "code" p.code
  let warnings ← required "warnings" p.warnings
  let transformed ← required "transformed" p.transformed
  return ⟨code, p.map.getD none, warnings, transformed⟩

end PartlyOutput

def Decoder.output : Decoder Output := record PartlyOutput.shape PartlyOutput.finish

structure PartlyEntry where
  hash : Option String
  output : Option Output

namespace PartlyEntry

def field (name : String) (p : PartlyEntry) : Option (Decoder PartlyEntry) :=
  match name with
  | "hash" => some (fieldOnce name p.hash text fun v => { p with hash := some v })
  | "output" => some (fieldOnce name p.output Decoder.output fun v => { p with output := some v })
  | _ => none

def items : List (PartlyEntry → Decoder PartlyEntry) :=
  [fun p => return { p with hash := some (← text) },
    fun p => return { p with output := some (← Decoder.output) }]

def shape : Shape PartlyEntry := ⟨"struct CacheEntry", ⟨none, none⟩, field, items, true⟩

def finish (p : PartlyEntry) : Decoder CacheEntry := do
  let hash ← required "hash" p.hash
  let output ← required "output" p.output
  return ⟨hash, output⟩

end PartlyEntry

def Output.decode (json : String) : Except JsonFault Output := Decoder.run Decoder.output json

def CacheEntry.decode (json : String) : Except JsonFault CacheEntry :=
  Decoder.run (record PartlyEntry.shape PartlyEntry.finish) json

end Rsx
