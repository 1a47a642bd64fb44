import Rsx.Proofs.HostNames
import Rsx.Proofs.Independence
import Rsx.Proofs.Places

set_option autoImplicit false

namespace Rsx

open HostImports (hostSpecifiers GivesBanned LastGives NamesWhole)

variable {target : Target} {program n callee : Node} {p : Primitive} {written : String}
  {problem : Located Problem}

def Target.hostImports (target : Target) (program : Node) : HostImports :=
  .ofProgram program target.hostModule target.extraBanned

-- The callees that are banned, each with the export it calls and the way it is written.
inductive BannedCallee (target : Target) (program : Node) : Node → Primitive → String → Prop where
  | named (callee : Node) (s : Span) (ps : List Node) (x : String) (p : Primitive)
      (name : callee.Parenthesizes (.mk (.name .value x) s ps)) (unreserved : isReserved x = false)
      (given : LastGives target.extraBanned x p (hostSpecifiers program target.hostModule)) :
      BannedCallee target program callee p x
  | member (callee : Node) (optional : Bool) (role : NameRole) (s s' s'' : Span) (ps ps' : List Node)
      (x e : String) (p : Primitive)
      (member : callee.Parenthesizes (.mk (.member optional) s
        [.mk (.name .value x) s' ps, .mk (.name role e) s'' ps']))
      (whole : ∃ specifier ∈ hostSpecifiers program target.hostModule, NamesWhole x specifier)
      (banned : Primitive.Bans target.extraBanned e p) :
      BannedCallee target program callee p (x ++ "." ++ e)

def Node.IsCall (n : Node) : Prop := ∃ optional pure, n.kind = .call optional pure

structure BannedCall (target : Target) (program n : Node) (p : Primitive) (written : String) : Prop where
  isCall : n.IsCall
  callee : BannedCallee target program (n.part 0) p written

theorem classify?_eq_some : (target.hostImports program).classify? callee = some (p, written) ↔
    BannedCallee target program callee p written := by
  constructor
  · intro found
    unfold HostImports.classify? at found
    split at found
    next x s ps name =>
      split at found
      · cases found
      next unreserved =>
        obtain ⟨q, given, same⟩ := Option.map_eq_some_iff.mp found
        cases same
        exact .named callee s ps _ p ((Node.unwrapped_eq_iff (by simp)).mp name) (Bool.eq_false_iff.mpr unreserved)
          (HostImports.lookup?_ofProgram.mp given)
    next o s x s' ps role e s'' ps' member =>
      split at found
      next whole =>
        obtain ⟨q, banned, same⟩ := Option.map_eq_some_iff.mp found
        cases same
        refine .member callee o role s s' s'' ps ps' x e p ((Node.unwrapped_eq_iff (by simp)).mp member)
          ?_ ?_
        · exact HostImports.mem_namespaces_ofProgram.mp (List.contains_iff_mem.mp whole)
        · rwa [Target.hostImports, HostImports.extra_ofProgram, Primitive.ofExport?_eq_some] at banned
      · cases found
    next => cases found
  · rintro (⟨s, ps, _, _, name, unreserved, given⟩ |
      ⟨o, role, s, s', s'', ps, ps', x, e, _, member, whole, banned⟩)
    · have found : (target.hostImports program).lookup? written = some p :=
        HostImports.lookup?_ofProgram.mpr given
      have name := (Node.unwrapped_eq_iff (by simp)).mpr name
      simp [HostImports.classify?, name, unreserved, found]
    · have known : (target.hostImports program).namespaces.contains x = true :=
        List.contains_iff_mem.mpr (HostImports.mem_namespaces_ofProgram.mpr whole)
      have found : Primitive.ofExport? (target.hostImports program).extra e = some p := by
        rwa [Target.hostImports, HostImports.extra_ofProgram, Primitive.ofExport?_eq_some]
      have member := (Node.unwrapped_eq_iff (by simp)).mpr member
      simp only [HostImports.classify?, member, known, found, if_true, Option.map_some]

theorem bannedCall?_eq_some : (target.hostImports program).bannedCall? n = some problem ↔
    ∃ p written, BannedCall target program n p written ∧
      problem = ⟨.bannedCall p written, n.span.start⟩ := by
  constructor
  · intro found
    unfold HostImports.bannedCall? at found
    split at found
    next optional pure kind =>
      obtain ⟨⟨p, written⟩, classified, rfl⟩ := Option.map_eq_some_iff.mp found
      exact ⟨p, written, ⟨⟨optional, pure, kind⟩, classify?_eq_some.mp classified⟩, rfl⟩
    next => cases found
  · rintro ⟨p, written, ⟨⟨optional, pure, kind⟩, callee⟩, rfl⟩
    simp [HostImports.bannedCall?, kind, classify?_eq_some.mpr callee]

theorem bannedCall?_eq_none : (target.hostImports program).bannedCall? n = none ↔
    ∀ p written, ¬BannedCall target program n p written := by
  simp only [Option.eq_none_iff_forall_ne_some, ne_eq, bannedCall?_eq_some]
  constructor
  · intro none p written banned
    exact none _ ⟨p, written, banned, rfl⟩
  · rintro quiet problem ⟨p, written, banned, -⟩
    exact quiet p written banned

theorem exists_firstBannedCall? :
    (∃ problem, (target.hostImports program).firstBannedCall? program = some problem) ↔
      ∃ n ∈ program.preorder, ∃ p written, BannedCall target program n p written := by
  simp only [HostImports.firstBannedCall?, ← Option.isSome_iff_exists, List.findSome?_isSome_iff]
  refine exists_congr fun n => and_congr_right fun _ => ?_
  simp only [Option.isSome_iff_exists, bannedCall?_eq_some]
  exact ⟨fun ⟨_, p, written, banned, _⟩ => ⟨p, written, banned⟩,
    fun ⟨p, written, banned⟩ => ⟨_, p, written, banned, rfl⟩⟩

theorem firstBannedCall?_eq_some :
    (target.hostImports program).firstBannedCall? program = some problem ↔
      ∃ before n after p written, program.preorder = before ++ n :: after ∧
        BannedCall target program n p written ∧
        (∀ m ∈ before, ∀ q other, ¬BannedCall target program m q other) ∧
        problem = ⟨.bannedCall p written, n.span.start⟩ := by
  simp only [HostImports.firstBannedCall?, List.findSome?_eq_some_iff, bannedCall?_eq_some,
    bannedCall?_eq_none]
  constructor
  · rintro ⟨before, n, after, split, ⟨p, written, banned, rfl⟩, quiet⟩
    exact ⟨before, n, after, p, written, split, banned, quiet, rfl⟩
  · rintro ⟨before, n, after, p, written, split, banned, quiet, rfl⟩
    exact ⟨before, n, after, split, ⟨p, written, banned, rfl⟩, quiet⟩

theorem checkNames_of_bannedCall
    (found : (target.hostImports program).firstBannedCall? program = some problem) :
    checkNames target program = .error problem := by
  rw [Target.hostImports] at found
  simp [checkNames, found]

theorem compile_of_bannedCall {o : Options} {path source : String} {m : Module}
    (taken : o.takes path = true) (parsed : Module.parse source = .ok m)
    (found : (o.target.hostImports m.tree).firstBannedCall? m.tree = some problem) :
    (compile o path source).result = .error (problem.what.diagnose path source problem.offset) := by
  rw [compile_of_takes taken, transform_of_parsed parsed, transformModule,
    checkNames_of_bannedCall found]

theorem not_bannedCallee_of_isEmpty (empty : (target.hostImports program).isEmpty = true) :
    ¬BannedCallee target program callee p written := by
  obtain ⟨aliases, namespaces⟩ := Bool.and_eq_true_iff.mp empty
  rw [List.isEmpty_iff] at aliases namespaces
  rintro (⟨s, ps, _, _, -, -, given⟩ |
    ⟨o, role, s, s', s'', ps, ps', x, e, _, -, whole, -⟩)
  · have found := HostImports.lookup?_ofProgram.mpr given
    rw [HostImports.lookup?, show (HostImports.ofProgram _ _ _).aliases = [] from aliases] at found
    cases found
  · have known : x ∈ (target.hostImports program).namespaces :=
      HostImports.mem_namespaces_ofProgram.mpr whole
    rw [namespaces] at known
    cases known

theorem bannedCall_diagnosed (p : Primitive) (written : String) (offset : Nat) (file source : String) :
    let d := (Problem.bannedCall p written).diagnose file source offset
    let start := Position.locate source offset
    d.code = "RSX-E002" ∧ d.line = start.line ∧ d.column = start.column ∧
      d.message = p.message ++
        (if written = p.exportName then "" else " (called as `" ++ written ++ "`)") := by
  refine ⟨rfl, rfl, rfl, ?_⟩
  change p.message ++ (if written == p.exportName then "" else " (called as `" ++ written ++ "`)") = _
  by_cases same : written = p.exportName
  · rw [if_pos same, if_pos (beq_iff_eq.mpr same)]
  · rw [if_neg same, if_neg (by simpa using same)]

/-- A program is refused exactly if it has a banned call anywhere. The refusal is that of the first
one, at the place where the call starts, and names the export that its name was last given to. -/
theorem ban_decides_rule (target : Target) (program : Node) :
    let imports := target.hostImports program
    let found := imports.firstBannedCall? program
    let specifiers := hostSpecifiers program target.hostModule
    ((∃ problem, found = some problem) ↔
        ∃ n ∈ program.preorder, ∃ p written, BannedCall target program n p written) ∧
      (∀ problem, found = some problem → checkNames target program = .error problem ∧
        ∃ before n after p written, program.preorder = before ++ n :: after ∧
          BannedCall target program n p written ∧
          (∀ m ∈ before, ∀ q other, ¬BannedCall target program m q other) ∧
          problem = ⟨.bannedCall p written, n.span.start⟩ ∧
          ∀ file source,
            let d := problem.what.diagnose file source problem.offset
            let start := Position.locate source n.span.start
            d.code = "RSX-E002" ∧ d.line = start.line ∧ d.column = start.column ∧
              d.message = p.message ++
                (if written = p.exportName then "" else " (called as `" ++ written ++ "`)")) ∧
      (∀ x, (∃ p, LastGives target.extraBanned x p specifiers) ↔
        ∃ s ∈ specifiers, ∃ p, GivesBanned target.extraBanned x p s) ∧
      (∀ e p, Primitive.Bans target.extraBanned e p → p.exportName = e) ∧
      (imports.isEmpty = true → found = none) := by
  intro imports found specifiers
  refine ⟨exists_firstBannedCall?, ?_, fun x => HostImports.exists_lastGives, ?_, ?_⟩
  · intro problem first
    obtain ⟨before, n, after, p, written, split, banned, quiet, rfl⟩ :=
      firstBannedCall?_eq_some.mp first
    exact ⟨checkNames_of_bannedCall first, before, n, after, p, written, split, banned, quiet, rfl,
      bannedCall_diagnosed p written n.span.start⟩
  · exact fun e p banned => banned.exportName
  · intro empty
    refine Option.eq_none_iff_forall_ne_some.mpr fun problem first => ?_
    obtain ⟨before, n, after, p, written, -, banned, -⟩ := firstBannedCall?_eq_some.mp first
    exact not_bannedCallee_of_isEmpty empty banned.callee

def parsedPasses (test : Node → Bool) (source : String) : Bool :=
  match Module.parse source with
  | .ok m => test m.tree
  | .error _ => false

theorem exists_parsed {test : Node → Bool} {source : String} (passes : parsedPasses test source = true) :
    ∃ m, Module.parse source = .ok m ∧ test m.tree = true := by
  unfold parsedPasses at passes
  split at passes
  next m parsed => exact ⟨m, parsed, passes⟩
  next => cases passes

-- Both exports are called `s`, and the first call is the one in the callback.
def calledTwiceText : String :=
  "import \x7b useState as s, useMemo as s \x7d from \"react\"; f(() => ((s))(1)); s(2);"

def callsParenthesized (start : Nat) (program : Node) : Bool :=
  program.preorder.all fun n =>
    match n.kind with
    | .call _ _ => n.span.start != start || (n.part 0).kind == .paren
    | _ => true

set_option maxRecDepth 100000 in
theorem ban_decides_rule_last :
    ∃ m, Module.parse calledTwiceText = .ok m ∧
      checkNames Options.default.target m.tree = .error ⟨.bannedCall .memo "s", 61⟩ ∧
      ∃ n ∈ m.tree.preorder, n.span.start = 61 ∧ (n.part 0).kind = .paren ∧
        BannedCall Options.default.target m.tree n .memo "s" := by
  have reported : parsedPasses (fun program =>
      decide ((Options.default.target.hostImports program).firstBannedCall? program =
        some ⟨.bannedCall .memo "s", 61⟩) && callsParenthesized 61 program) calledTwiceText = true := by
    decide +kernel
  obtain ⟨m, parsed, passes⟩ := exists_parsed reported
  obtain ⟨found, parenthesized⟩ := Bool.and_eq_true_iff.mp passes
  obtain ⟨-, first, -⟩ := ban_decides_rule Options.default.target m.tree
  obtain ⟨refused, before, n, after, p, written, split, banned, -, same, -⟩ :=
    first _ (of_decide_eq_true found)
  obtain ⟨⟨rfl, rfl⟩, start⟩ : (.memo = p ∧ "s" = written) ∧ 61 = n.span.start := by
    simpa using same
  have below : n ∈ m.tree.preorder := by simp [split]
  obtain ⟨optional, pure, kind⟩ := banned.isCall
  have callee := List.all_eq_true.mp parenthesized n below
  simp only [kind, ← start, bne_self_eq_false, Bool.false_or, beq_iff_eq] at callee
  exact ⟨m, parsed, refused, n, below, start.symm, callee, banned⟩

end Rsx
