import Rsx.Diagnostic
import Rsx.Flaw
import Rsx.Primitive

set_option autoImplicit false

namespace Rsx

inductive Problem where
  | propsWrite (path : List String) (field : String)
  | shorthandWrite (name : String)
  | reservedName (name : String)
  | protoState
  | bannedCall (primitive : Primitive) (callee : String)
  | unreadable (flaw : Flaw)
deriving DecidableEq

namespace Problem

def rule : Problem → Rule
  | propsWrite _ _ => .propsMutation
  | shorthandWrite _ => .shorthandWrite
  | reservedName _ => .reservedName
  | protoState => .reservedName
  | bannedCall _ _ => .bannedPrimitive
  | unreadable _ => .parsing

def message : Problem → String
  | propsWrite path field =>
    "[RSX] Props are immutable. Cannot assign to `" ++ ".".intercalate path ++ "` (field `" ++ field
      ++ "`)."
  | shorthandWrite name =>
    "[RSX] Shorthand destructuring cannot write to instance state `" ++ name ++ "`."
  | reservedName name =>
    "`" ++ name ++ "` uses the reserved `__rsx_` prefix. Names with this prefix belong to the compiler."
  | protoState => "`__proto__` cannot be used as instance state."
  | bannedCall primitive callee =>
    primitive.message
      ++ (if callee == primitive.exportName then "" else " (called as `" ++ callee ++ "`)")
  | unreadable flaw => "[RSX] Failed to parse: " ++ flaw.message

def hints : Problem → List String
  | propsWrite _ _ =>
    ["React to new props with update((prev, next) => ...).",
      "Copy the value into a local variable if it needs to change."]
  | shorthandWrite name =>
    ["Write it as `(\x7b " ++ name ++ ": " ++ name ++ " \x7d = ...)` instead."]
  | reservedName name => ["Rename `" ++ name ++ "` to something without the `__rsx_` prefix."]
  | protoState => ["Pick another name for this variable."]
  | bannedCall _ _ => ["Register behavior through view(), update(), destroy() and render()."]
  | unreadable _ => []

def diagnose (p : Problem) (file source : String) (offset : Nat) : Diagnostic :=
  .atOffset file source offset p.rule.code p.message p.hints

end Problem

inductive Caution where
  | staleState (name : String)
  | returnDiscarded
deriving DecidableEq

namespace Caution

def rule : Caution → Rule
  | staleState _ => .staleState
  | returnDiscarded => .returnDiscarded

def message : Caution → String
  | staleState name =>
    "[RSX] Warning: assigning instance state from props (`" ++ name ++ "`). The value is captured "
      ++ "once and goes stale when props change. Move this logic into update() or into setup code "
      ++ "that runs on init."
  | returnDiscarded =>
    "[RSX] Top-level return value is ignored. Register markup with view(() => ...)."

def warn (c : Caution) (file source : String) (offset : Nat) : Warning :=
  .atOffset file source offset c.rule.code c.message

end Caution

structure Located (α : Type) where
  what : α
  offset : Nat
deriving DecidableEq

end Rsx
