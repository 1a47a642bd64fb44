import Rsx.Tree
import Rsx.Flaw

set_option autoImplicit false

namespace Rsx

inductive CommentMark where
  | plain | pure | noSideEffects
deriving DecidableEq

structure Comment where
  start : Nat
  block : Bool
  text : String        -- with its delimiters
  mark : CommentMark
  multiline : Bool     -- its lines are indented anew
  legal : Bool         -- it speaks of rights, and starts a line of its own
  afterNewline : Bool
  beforeNewline : Bool
deriving DecidableEq

inductive TokenKind where
  | eof
  | invalid
  | word (text : String) (escaped : Bool)
  | privateName (text : String)
  | punct (text : String)
  | number (value : Binary64) (raw label : String)
  | bigint (value : Nat) (raw label : String)
  | string (value : CodePoints) (raw : String)
  | template (raw : String) (valid opens closes : Bool)
  | regex (body flags : String)
  | jsxText (raw : String)
deriving DecidableEq

structure Token where
  kind : TokenKind
  start : Nat
  stop : Nat
  newline : Bool             -- a line break stands before it
  leading : List Comment     -- comments that belong to it
  pure : Bool                -- a purity mark stands before it
  noSideEffects : Bool

instance : Inhabited Token := ⟨⟨.eof, 0, 0, false, [], false, false⟩⟩

namespace Token

def reserved : List String :=
  ["break", "case", "catch", "class", "const", "continue", "debugger", "default", "delete", "do",
   "else", "enum", "export", "extends", "false", "finally", "for", "function", "if", "import", "in",
   "instanceof", "new", "null", "return", "super", "switch", "this", "throw", "true", "try",
   "typeof", "var", "void", "while", "with"]

def contextual : List String :=
  ["await", "as", "async", "from", "get", "meta", "of", "set", "target", "accessor", "source",
   "defer", "abstract", "any", "asserts", "assert", "bigint", "boolean", "constructor", "declare",
   "global", "implements", "infer", "interface", "intrinsic", "is", "keyof", "let",
   "module", "namespace", "never", "number", "object", "out", "override", "package", "private",
   "protected", "public", "readonly", "require", "satisfies", "static", "string", "symbol", "type",
   "undefined", "unique", "unknown", "using", "yield"]

def isKeyword (text : String) : Bool := reserved.contains text || contextual.contains text

def describe : TokenKind → String
  | .eof => "EOF"
  | .invalid => "Unknown"
  | .word "namespace" _ => "namaespace"
  | .word text _ => if isKeyword text then text else "Identifier"
  | .privateName _ => "#identifier"
  | .punct text => text
  | .number _ _ label => label
  | .bigint _ _ label => label
  | .string _ _ => "string"
  | .template _ _ true true => "$\x7b\x7d"
  | .template _ _ true false => "$\x7b"
  | .template _ _ false false => "$\x7bexpr\x7d"
  | .template _ _ false true => "\x7d"
  | .regex _ _ => "/regexp/"
  | .jsxText _ => "jsx"

end Token

end Rsx
