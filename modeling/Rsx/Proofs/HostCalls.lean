import Rsx.Proofs.JsonReading
import Rsx.Transform
import Mathlib.Data.List.Basic

set_option autoImplicit false

namespace Rsx

namespace HostCall

def spelled (c : Char) : List Char :=
  if c == '"' then ['\\', '"']
  else if c == '\\' then ['\\', '\\']
  else if c == '\n' then ['\\', 'n']
  else if c == '\r' then ['\\', 'r']
  else [c]

theorem spelled_ne_nil (c : Char) : spelled c ≠ [] := by
  unfold spelled
  split_ifs <;> simp

def literal (name : String) (rest : List Char) : List Char :=
  '"' :: (name.toList.flatMap spelled ++ '"' :: rest)

def behindHost : List Char := [';', 'q', '(', ')']

def behindName (host : String) : List Char :=
  ' ' :: 'a' :: 's' :: ' ' :: 'q' :: '\x7d' :: 'f' :: 'r' :: 'o' :: 'm' :: literal host behindHost

def text (name host : String) : List Char :=
  'i' :: 'm' :: 'p' :: 'o' :: 'r' :: 't' :: '\x7b' :: literal name (behindName host)

open Lexer

variable {start : Reader} {acc : CodePoints} {offset fuel : Nat} {rest : List Char}

theorem stringLoop_escape {c : Char} {x : Nat}
    (escape : ∀ r : Reader, r.rest = c :: rest → Escape.inString false r = (some [x], r.skip)) :
    stringLoop '"' start (fuel + 1) ⟨'\\' :: c :: rest, offset⟩ acc [] =
      stringLoop '"' start fuel ⟨rest, offset + '\\'.utf8Size + c.utf8Size⟩ (x :: acc) [] := by
  rw [stringLoop]
  have plain : ('\\' == '"') = false ∧ ('\\' == '\n' || '\\' == '\r') = false := by decide
  simp only [plain.1, plain.2, beq_self_eq_true, if_true, if_false, Bool.false_eq_true, Reader.skip]
  rw [escape _ rfl]
  rfl

theorem stringLoop_spelled (c : Char) :
    ∃ stop, stringLoop '"' start (fuel + 1) ⟨spelled c ++ rest, offset⟩ acc [] =
      stringLoop '"' start fuel ⟨rest, stop⟩ (c.toNat :: acc) [] := by
  unfold spelled
  split_ifs with quote backslash feed back
  · rw [eq_of_beq quote]
    exact ⟨_, stringLoop_escape fun r known => by unfold Escape.inString; rw [known]; rfl⟩
  · rw [eq_of_beq backslash]
    exact ⟨_, stringLoop_escape fun r known => by unfold Escape.inString; rw [known]; rfl⟩
  · rw [eq_of_beq feed]
    exact ⟨_, stringLoop_escape fun r known => by unfold Escape.inString; rw [known]; rfl⟩
  · rw [eq_of_beq back]
    exact ⟨_, stringLoop_escape fun r known => by unfold Escape.inString; rw [known]; rfl⟩
  · refine ⟨offset + c.utf8Size, ?_⟩
    rw [List.singleton_append, stringLoop]
    simp only [quote, backslash, feed, back]
    rfl

theorem stringLoop_literal (cs : List Char) (enough : cs.length < fuel) :
    ∃ raw stop, stringLoop '"' start fuel ⟨cs.flatMap spelled ++ '"' :: rest, offset⟩ acc [] =
      ⟨.string (acc.reverse ++ cs.map Char.toNat) raw, ⟨rest, stop⟩, []⟩ := by
  induction cs generalizing offset fuel acc with
  | nil =>
    obtain ⟨fuel, rfl⟩ : ∃ k, fuel = k + 1 := ⟨fuel - 1, by simp at enough; omega⟩
    refine ⟨rawBetween start ⟨rest, offset + 1⟩, offset + 1, ?_⟩
    rw [List.map_nil, List.append_nil]
    rfl
  | cons c cs ih =>
    obtain ⟨fuel, rfl⟩ : ∃ k, fuel = k + 1 := ⟨fuel - 1, by simp at enough; omega⟩
    rw [List.flatMap_cons, List.append_assoc]
    obtain ⟨stop, first⟩ := stringLoop_spelled c
    obtain ⟨raw, last, later⟩ := ih (by simpa using enough)
    refine ⟨raw, last, ?_⟩
    rw [first, later]
    simp

def token (k : TokenKind) (start stop : Nat) : Token := ⟨k, start, stop, false, [], false, false⟩

-- A lexer that has read a token and stands before the rest.
def lexer (before rest : List Char) (start stop : Nat) : Lexer :=
  ⟨⟨rest, stop⟩, ⟨before, start⟩, [], false, false⟩

def state (k : TokenKind) (before rest : List Char) (start stop last : Nat) : ParserState :=
  ⟨lexer before rest start stop, token k start stop, last,
    ⟨true, false, true, false, false, false, true, false⟩, [], [], [], []⟩

def atLiteral (name raw : String) (before rest : List Char) (start stop : Nat) : ParserState :=
  state (.string (.ofString name) raw) before rest start stop start

theorem next_literal (name : String) (rest before : List Char) (start stop : Nat) :
    ∃ raw last, (lexer before (literal name rest) start stop).next =
      (token (.string (.ofString name) raw) stop last, lexer (literal name rest) rest stop last) := by
  have enough : name.toList.length < (literal name rest).length + 1 := by
    have written := Decoder.length_le_flatMap spelled_ne_nil name.toList
    simp only [literal, List.length_cons, List.length_append]
    omega
  obtain ⟨raw, last, read⟩ := stringLoop_literal name.toList enough
  refine ⟨raw, last, ?_⟩
  have lexed : Lexer.lexeme ⟨literal name rest, stop⟩ =
      ⟨.string (.ofString name) raw, ⟨rest, last⟩, []⟩ := read
  change (lexer before (literal name rest) start stop).finish ⟨literal name rest, stop⟩ _
    (Lexer.lexeme ⟨literal name rest, stop⟩) = _
  rw [lexed]
  rfl

def Parses {α : Type} (p : Parser α) (s : ParserState) (a : α) (s' : ParserState) : Prop :=
  p s = .ok a s'

theorem Parses.bind {α β : Type} {p : Parser α} {f : α → Parser β} {s s' s'' : ParserState}
    {a : α} {b : β} (first : Parses p s a s') (second : Parses (f a) s' b s'') :
    Parses (p >>= f) s b s'' := by
  unfold Parses at first second ⊢
  simp only [Bind.bind, EStateM.bind, first]
  exact second

theorem Parses.more {σ : Type} {step : σ → Parser (σ × Bool)} {n : Nat} {x y z : σ}
    {s s' s'' : ParserState} (first : Parses (step x) s (y, true) s')
    (later : Parses (Parser.loop step n y) s' z s'') :
    Parses (Parser.loop step (n + 1) x) s z s'' :=
  .bind first later

section

variable {name raw : String} {before rest : List Char} {start stop last e : Nat}
  (next : (lexer before (literal name rest) start stop).next =
    (token (.string (.ofString name) raw) stop last, lexer (literal name rest) rest stop last))

include next

theorem parses_brace :
    Parses (Parser.expect "\x7b") (state (.punct "\x7b") before (literal name rest) start stop e) ()
      (atLiteral name raw (literal name rest) rest stop last) := by
  change EStateM.Result.ok () (ParserState.take _ (lexer before (literal name rest) start stop).next) = _
  rw [next]
  rfl

theorem parses_from :
    Parses (Parser.expectWord "from")
      (state (.word "from" false) before (literal name rest) start stop e) ()
      (atLiteral name raw (literal name rest) rest stop last) := by
  change EStateM.Result.ok () (ParserState.take _ (lexer before (literal name rest) start stop).next) = _
  rw [next]
  rfl

end

theorem not_surrogate (name : String) : (CodePoints.ofString name).any isSurrogate = false := by
  rw [List.any_eq_false]
  rintro x member
  obtain ⟨c, -, rfl⟩ := List.mem_map.mp member
  have valid : c.toNat < 0xd800 ∨ 0xdfff < c.toNat ∧ c.toNat < 0x110000 := c.valid
  simp only [isSurrogate, Bool.and_eq_true, decide_eq_true_eq]
  omega

structure Quote where
  raw : String
  start : Nat
  stop : Nat

def nameNode (name : String) (at_ : Quote) : Node :=
  .mk (.stringLit (.ofString name) at_.raw) ⟨at_.start, at_.stop⟩ []

def itemNode (name : String) (at_ : Quote) : Node :=
  .mk (.importNamed false) ⟨at_.start, at_.stop + 5⟩
    [nameNode name at_, .mk (.name .binding "q") ⟨at_.stop + 4, at_.stop + 5⟩ []]

def importNode (name host : String) (q r : Quote) : Node :=
  .mk (.importFrom false "") ⟨0, r.stop + 1⟩ [.group [itemNode name q], nameNode host r, .absent]

def callNode (start : Nat) : Node :=
  .mk .expression ⟨start, start + 3⟩
    [.mk (.call false false) ⟨start, start + 3⟩
      [.mk (.name .value "q") ⟨start, start + 1⟩ [], .absent, .group []]]

def program (name host : String) (q r : Quote) : Node :=
  .mk (.program none) ⟨0, r.stop + 4⟩
    [.group [], .group [importNode name host q r, callNode (r.stop + 1)]]

def behindItem (host : String) (stop : Nat) : ParserState :=
  state (.punct "\x7d") ((behindName host).drop 5) ((behindName host).drop 6) (stop + 5) (stop + 6)
    (stop + 5)

def atImport (name host : String) : ParserState :=
  state (.word "import" false) (text name host) ((text name host).drop 6) 0 6 0

def atCall (start : Nat) : ParserState :=
  state (.word "q" false) ['q', '(', ')'] ['(', ')'] start (start + 1) start

def atEnd (start : Nat) : ParserState := state .eof [] [] start start start

section

variable (name host : String) (before : List Char) (q : Quote) (fuel : Nat)

theorem parses_moduleName :
    Parses Grammar.moduleName (atLiteral name q.raw before (behindName host) q.start q.stop)
      (nameNode name q)
      (state (.word "as" false) ((behindName host).drop 1) ((behindName host).drop 3) (q.stop + 1)
        (q.stop + 3) q.stop) := by
  refine .bind (Eq.refl _) ?_
  change Parses (if (CodePoints.ofString name).any isSurrogate then _ else Grammar.literalNode) _ _ _
  rw [not_surrogate]
  exact Eq.refl _

theorem parses_moduleItem :
    Parses Grammar.moduleItem (atLiteral name q.raw before (behindName host) q.start q.stop)
      (false, nameNode name q, .mk (.name .property "q") ⟨q.stop + 4, q.stop + 5⟩ [])
      (behindItem host q.stop) :=
  .bind (Eq.refl _) (.bind (parses_moduleName ..) (Eq.refl _))

theorem parses_item :
    Parses (Grammar.importItem false) (atLiteral name q.raw before (behindName host) q.start q.stop)
      (itemNode name q) (behindItem host q.stop) :=
  .bind (Eq.refl _) (.bind (parses_moduleItem ..) (Eq.refl _))

theorem parses_items :
    Parses (Parser.delimited "\x7d" "," (Grammar.importItem false))
      (atLiteral name q.raw before (behindName host) q.start q.stop) ([itemNode name q], none)
      (behindItem host q.stop) :=
  .bind (Eq.refl _) (.bind (parses_item ..) (Eq.refl _))

theorem parses_call (start : Nat) :
    Parses (Grammar.parse (fuel + 64) (.statement false)) (atCall start) (callNode start)
      (atEnd (start + 3)) := by
  unfold Parses atCall atEnd state lexer token callNode
  rfl

theorem parses_import :
    ∃ q r, Parses (Grammar.parse (fuel + 64) (.statement false)) (atImport name host)
      (importNode name host q r) (atCall (r.stop + 1)) := by
  obtain ⟨raw, stop, next⟩ := next_literal name (behindName host) ((text name host).drop 6) 6 7
  obtain ⟨rawHost, stopHost, nextHost⟩ :=
    next_literal host behindHost ((behindName host).drop 6) (stop + 6) (stop + 10)
  refine ⟨⟨raw, 7, stop⟩, ⟨rawHost, stop + 10, stopHost⟩, ?_⟩
  have list : Parses (Grammar.importList false)
      (state (.punct "\x7b") ((text name host).drop 6) (literal name (behindName host)) 6 7 6)
      [itemNode name ⟨raw, 7, stop⟩]
      (state (.word "from" false) ((behindName host).drop 6) (literal host behindHost) (stop + 6)
        (stop + 10) (stop + 6)) :=
    .bind (parses_brace next) (.bind (parses_items name host _ ⟨raw, 7, stop⟩) (Eq.refl _))
  have tail : Parses (Grammar.importTail 0 false ⟨"", 0⟩ none)
      (state (.punct "\x7b") ((text name host).drop 6) (literal name (behindName host)) 6 7 6)
      (importNode name host ⟨raw, 7, stop⟩ ⟨rawHost, stop + 10, stopHost⟩) (atCall (stopHost + 1)) :=
    .bind (Eq.refl _) (.bind list (.bind (Eq.refl _) (.bind (parses_from nextHost) (Eq.refl _))))
  -- No string, no type import, no phase and no default import: six questions before the list.
  have declaration : Parses (Grammar.importDeclaration 0) (atImport name host)
      (importNode name host ⟨raw, 7, stop⟩ ⟨rawHost, stop + 10, stopHost⟩) (atCall (stopHost + 1)) :=
    .bind (Eq.refl _) (.bind (Eq.refl _) (.bind (Eq.refl _) (.bind (Eq.refl _)
      (.bind (Eq.refl _) (.bind (Eq.refl _) tail)))))
  exact .bind (Eq.refl _) (.bind (a := false) (Eq.refl _) (.bind declaration (Eq.refl _)))

theorem parses_program :
    ∃ q r last, Parses (Grammar.programNode (fuel + 64) none) (atImport name host)
      (program name host q r) (atEnd last) := by
  obtain ⟨q, r, first⟩ := parses_import name host fuel
  have second := parses_call fuel (r.stop + 1)
  refine ⟨q, r, r.stop + 4, ?_⟩
  have statements : Parses (Grammar.directivesAndStatements (Grammar.parse (fuel + 64)) true)
      (atImport name host) ([], [importNode name host q r, callNode (r.stop + 1)])
      (atEnd (r.stop + 4)) := by
    refine .bind (a := ([], [callNode (r.stop + 1), importNode name host q r], false)) ?_ (Eq.refl _)
    refine .bind (Eq.refl _)
      (.more (.bind (Eq.refl _) (.bind (Eq.refl _) (.bind first (Eq.refl _)))) ?_)
    refine .more (.bind (Eq.refl _) (.bind (Eq.refl _) (.bind second (Eq.refl _)))) ?_
    exact Eq.refl _
  exact .bind statements (Eq.refl _)

end

theorem parse_text (name host : String) :
    ∃ q r, Module.parse (String.ofList (text name host)) = .ok ⟨program name host q r, []⟩ := by
  obtain ⟨q, r, last, parsed⟩ :=
    parses_program name host (16 * (String.ofList (text name host)).length)
  refine ⟨q, r, ?_⟩
  have opened : Grammar.opening (String.ofList (text name host)) = (atImport name host, none) := by
    unfold Grammar.opening ParserState.ofText Lexer.ofText
    rw [String.toList_ofList]
    rfl
  unfold Parses at parsed
  simp only [Module.parse, opened, Grammar.depthBound, parsed]
  rfl

theorem toString_name (name : String) : CodePoints.toString (.ofString name) = name := by
  rw [CodePoints.toString, not_surrogate, if_neg (by decide), CodePoints.ofString, List.map_map]
  have same : Char.ofNat ∘ Char.toNat = id := funext fun c => Char.ofNat_toNat c
  rw [same, List.map_id, String.ofList_toList]

theorem imports_program (name host : String) (q r : Quote) (extra : List String) :
    HostImports.ofProgram (program name host q r) host extra =
      HostImports.addAlias ⟨[], [], extra⟩ name "q" := by
  have specifiers : HostImports.specifiersFrom host (importNode name host q r) = [itemNode name q] := by
    change (if CodePoints.toString (.ofString host) == host then [itemNode name q] else []) = _
    rw [toString_name, if_pos (by simp)]
  have listed : (program name host q r).statements =
      [importNode name host q r, callNode (r.stop + 1)] := rfl
  rw [HostImports.ofProgram, listed, List.flatMap_cons, specifiers]
  change HostImports.addAlias _ (CodePoints.toString (.ofString name)) "q" = _
  rw [toString_name]

theorem checkNames_program (target : Target) (name : String) (q r : Quote) :
    checkNames target (program name target.hostModule q r) =
      match Primitive.ofExport? target.extraBanned name with
      | some primitive => .error ⟨.bannedCall primitive "q", r.stop + 1⟩
      | none => .ok () := by
  rw [checkNames, imports_program, HostImports.addAlias]
  cases Primitive.ofExport? target.extraBanned name with
  | some primitive => rfl
  | none => rfl

-- A module that calls a name of the host is refused if the name is banned, and only then.
theorem transform_text (name host : String) :
    ∃ source offset, ∀ target path, target.hostModule = host →
      (transform target path source).result =
        match Primitive.ofExport? target.extraBanned name with
        | some primitive => .error ((Problem.bannedCall primitive "q").diagnose path source offset)
        | none => .ok (.passthrough source) := by
  obtain ⟨q, r, parsed⟩ := parse_text name host
  refine ⟨String.ofList (text name host), r.stop + 1, ?_⟩
  rintro target path rfl
  unfold transform
  simp only [parsed, transformModule, checkNames_program]
  cases Primitive.ofExport? target.extraBanned name with
  | some primitive => rfl
  | none => rfl

end HostCall

end Rsx
