import Rsx.Grammar.Parser

set_option autoImplicit false

namespace Rsx

namespace Modifier

def words : List String :=
  ["abstract", "accessor", "async", "const", "declare", "default", "export", "in", "out", "public",
   "private", "protected", "readonly", "static", "override"]

def access? : String → Option Access
  | "private" => some .priv
  | "protected" => some .prot
  | "public" => some .pub
  | _ => none

def isAccess (m : Modifier) : Bool := (access? m.word).isSome

def accessOf (ms : List Modifier) : Option Access :=
  ms.foldl (fun a m => (access? m.word).or a) none

def has (ms : List Modifier) (word : String) : Bool := ms.any (·.word == word)

end Modifier

namespace Grammar

open Rsx.Parser

def canFollowModifier (k : TokenKind) : Bool :=
  match k with
  | .punct p => p == "[" || p == "\x7b" || p == "*" || p == "..."
  | .privateName _ => true
  | _ => isName k || isLiteral k

def canFollowExport (k : TokenKind) : Bool :=
  isPunct "@" k
    || (canFollowModifier k && !isPunct "*" k && !isWord "as" k && !isPunct "\x7b" k)

def canFollowDefault : Parser Bool := do
  if (← at_ "@") || (← atAnyWord ["class", "function", "interface"]) then return true
  if ← atWord "abstract" then return ← followsOnLine (isWord "class")
  if ← atWord "async" then return ← followsOnLine (isWord "function")
  return false

def modifiesNext : Parser Bool :=
  ahead do
    let w ← wordText
    advance
    match w with
    | "const" => atWord "enum"
    | "export" =>
      if ← eatWord "default" then canFollowDefault
      else
        let _ ← eatWord "type"
        return canFollowExport (← kind)
    | "default" => canFollowDefault
    | "static" | "get" | "set" => return canFollowModifier (← kind)
    | _ => return canFollowModifier (← kind) && !(← onNewLine)

def atModifier (w : String) : Parser Bool := do
  if ← atWord w then modifiesNext else return false

def checkModifier (earlier : List Modifier) (m : Modifier) : Parser Unit := do
  if m.isAccess then
    if earlier.any Modifier.isAccess then note .accessTwice m.start
  else if Modifier.has earlier m.word then note (.modifierTwice m.word) m.start
  else if m.word == "export" then
    match earlier.find? fun e => ["declare", "abstract", "async"].contains e.word with
    | some e => note (.modifierOrder "export" e.word) m.start
    | none => pure ()

def takeModifier : Parser Modifier := do
  let m : Modifier := ⟨← wordText, ← start⟩
  advance
  return m

-- All modifiers here, in order, as long as `isNext` finds one more. A second `static` is a name.
def modifiersWhile (isNext : Parser Bool) : Parser (List Modifier) :=
  iterate ([] : List Modifier) fun ms => do
    let again := (← atWord "static") && Modifier.has ms "static"
    if !again && (← atAnyWord Modifier.words) && (← isNext) then
      let m ← takeModifier
      checkModifier ms m
      return (ms ++ [m], true)
    else return (ms, false)

def modifiers : Parser (List Modifier) := modifiersWhile modifiesNext

def modifiesNextOrConst : Parser Bool := do
  if ← atWord "const" then followsOnLine canFollowModifier else modifiesNext

def modifiersWithConst : Parser (List Modifier) := modifiersWhile modifiesNextOrConst

-- Before a class member, where a brace after `static` opens a block.
def memberModifiers : Parser (List Modifier) :=
  modifiersWhile do
    if (← atWord "static") && (← follows (isPunct "\x7b")) then return false
    modifiesNextOrConst

def allowOnly (allowed : List String) (flaw : String → Flaw) (ms : List Modifier) : Parser Unit :=
  for m in ms do
    unless allowed.contains m.word do note (flaw m.word) m.start

def refuse (words : List String) (flaw : String → Flaw) (ms : List Modifier) : Parser Unit :=
  for m in ms do
    if words.contains m.word then note (flaw m.word) m.start

def refuseDecorators (ds : List Node) : Parser Unit :=
  for d in ds do note .decoratorsHere d.span.start

end Grammar

end Rsx
