import Rsx.Proofs.BannedCalls
import Rsx.Proofs.Places

set_option autoImplicit false

namespace Rsx

open HostImports (specifiersFrom hostSpecifiers writtenName GivesBanned LastGives NamesWhole)

namespace Node

-- The node inside any number of parentheses and of marks that an optional chain ends there.
def core : Node → Node
  | mk .paren _ [inner] => inner.core
  | mk .chain _ [inner] => inner.core
  | n => n

theorem core_unwrapped (n : Node) : n.unwrapped.core = n.core := by
  induction n using unwrapped_induction with
  | paren s inner ih => rw [unwrapped, ih, core]
  | plain n plain => rw [plain]

inductive Accesses : Node → Node → String → Prop where
  | dot (optional : Bool) (role : NameRole) (s s' : Span) (ps : List Node) (object : Node)
      (key : String) : Accesses (.mk (.member optional) s [object, .mk (.name role key) s' ps]) object key
  | brackets (optional : Bool) (s s' : Span) (ps : List Node) (object : Node) (value : CodePoints)
      (raw : String) :
      Accesses (.mk (.index optional) s [object, .mk (.stringLit value raw) s' ps]) object
        (CodePoints.toString value)

end Node

inductive ImportsAs (hostModule : String) (program : Node) : String → String → Prop where
  | named (statement specifier : Node) (below : statement ∈ program.preorder)
      (listed : specifier ∈ specifiersFrom hostModule statement)
      (named : specifier.kind = .importNamed false) :
      ImportsAs hostModule program (writtenName (specifier.part 0)) (writtenName (specifier.part 1))
  | byDefault (statement specifier : Node) (below : statement ∈ program.preorder)
      (listed : specifier ∈ specifiersFrom hostModule statement)
      (isDefault : specifier.kind = .importDefault) :
      ImportsAs hostModule program "default" (writtenName (specifier.part 0))

inductive ImportsWhole (hostModule : String) (program : Node) : String → Prop where
  | defaultExport (x : String) (imported : ImportsAs hostModule program "default" x) :
      ImportsWhole hostModule program x
  | allExports (statement specifier : Node) (below : statement ∈ program.preorder)
      (listed : specifier ∈ specifiersFrom hostModule statement)
      (isNamespace : specifier.kind = .importNamespace) :
      ImportsWhole hostModule program (writtenName (specifier.part 0))

variable {target : Target} {program n callee : Node}

inductive CallsHost (target : Target) (program : Node) : Node → Prop where
  | named (callee : Node) (s : Span) (ps : List Node) (x e : String) (p : Primitive)
      (name : callee.core = .mk (.name .value x) s ps) (unreserved : isReserved x = false)
      (imported : ImportsAs target.hostModule program e x)
      (banned : Primitive.Bans target.extraBanned e p) : CallsHost target program callee
  | member (callee object : Node) (s : Span) (ps : List Node) (x e : String) (p : Primitive)
      (accesses : callee.core.Accesses object e) (name : object.core = .mk (.name .value x) s ps)
      (unreserved : isReserved x = false) (imported : ImportsWhole target.hostModule program x)
      (banned : Primitive.Bans target.extraBanned e p) : CallsHost target program callee

-- A callee that is not seen to be an export of the module.
inductive Unseen (target : Target) (program : Node) : Node → Prop where
  | chained (callee : Node) (chained : callee.core ≠ callee.unwrapped) : Unseen target program callee
  | brackets (callee : Node) (optional : Bool) (s : Span) (ps : List Node)
      (index : callee.unwrapped = .mk (.index optional) s ps) : Unseen target program callee
  | wrapped (callee object key : Node) (optional : Bool) (s : Span)
      (member : callee.unwrapped = .mk (.member optional) s [object, key])
      (wrapped : ∀ x s ps, object ≠ .mk (.name .value x) s ps) : Unseen target program callee
  | unknownName (callee : Node) (s : Span) (ps : List Node) (x : String)
      (name : callee.unwrapped = .mk (.name .value x) s ps)
      (unknown : ∀ specifier ∈ hostSpecifiers program target.hostModule, ∀ p,
        ¬GivesBanned target.extraBanned x p specifier) : Unseen target program callee
  | unknownModule (callee key : Node) (optional : Bool) (s s' : Span) (ps : List Node) (x : String)
      (member : callee.unwrapped = .mk (.member optional) s [.mk (.name .value x) s' ps, key])
      (unknown : ∀ specifier ∈ hostSpecifiers program target.hostModule, ¬NamesWhole x specifier) :
      Unseen target program callee

theorem BannedCallee.not_unseen {p : Primitive} {written : String}
    (banned : BannedCallee target program callee p written) : ¬Unseen target program callee := by
  rcases banned with ⟨s, ps, _, _, name, -, given⟩ |
    ⟨o, role, s, s', s'', ps, ps', x, e, _, member, whole, -⟩
  · have name := (Node.unwrapped_eq_iff (by simp)).mpr name
    have core : callee.core = callee.unwrapped := by
      rw [← Node.core_unwrapped, name]
      rfl
    rintro (chained | ⟨_, _, _, index⟩ | ⟨_, _, _, _, member, -⟩ | ⟨_, _, _, name', unknown⟩ |
      ⟨_, _, _, _, _, _, member, -⟩)
    · exact chained core
    · cases name.symm.trans index
    · cases name.symm.trans member
    · cases name.symm.trans name'
      obtain ⟨specifier, listed, q, gives⟩ := HostImports.exists_lastGives.mp ⟨_, given⟩
      exact unknown specifier listed q gives
    · cases name.symm.trans member
  · have member := (Node.unwrapped_eq_iff (by simp)).mpr member
    have core : callee.core = callee.unwrapped := by
      rw [← Node.core_unwrapped, member]
      rfl
    rintro (chained | ⟨_, _, _, index⟩ | ⟨_, _, _, _, member', wrapped⟩ | ⟨_, _, _, name, -⟩ |
      ⟨_, _, _, _, _, _, member', unknown⟩)
    · exact chained core
    · cases member.symm.trans index
    · cases member.symm.trans member'
      exact wrapped _ _ _ rfl
    · cases member.symm.trans name
    · cases member.symm.trans member'
      obtain ⟨specifier, listed, names⟩ := whole
      exact unknown specifier listed names

theorem CallsHost.banned_or_unseen (calls : CallsHost target program callee) :
    (∃ p written, BannedCallee target program callee p written) ∨ Unseen target program callee := by
  by_cases core : callee.core = callee.unwrapped
  · rcases calls with ⟨s, ps, x, e, p, name, unreserved, -, -⟩ |
      ⟨object, s, ps, x, e, p, accesses, name, -, -, banned⟩
    · rw [core] at name
      have around := (Node.unwrapped_eq_iff (by simp)).mp name
      by_cases known : ∃ p, LastGives target.extraBanned x p (hostSpecifiers program target.hostModule)
      · obtain ⟨q, given⟩ := known
        exact .inl ⟨q, x, .named callee s ps x q around unreserved given⟩
      · rw [HostImports.exists_lastGives] at known
        refine .inr (.unknownName callee s ps x name fun specifier listed q gives => ?_)
        exact known ⟨specifier, listed, q, gives⟩
    · rw [core] at accesses
      generalize inside : callee.unwrapped = inner at accesses
      cases accesses with
      | brackets o s s' ps' object value raw => exact .inr (.brackets callee o s _ inside)
      | dot o role s' s'' ps' object key =>
        by_cases bare : ∃ x s ps, object = .mk (.name .value x) s ps
        · obtain ⟨y, t, qs, rfl⟩ := bare
          by_cases whole : ∃ specifier ∈ hostSpecifiers program target.hostModule, NamesWhole y specifier
          · have around := (Node.unwrapped_eq_iff (by simp)).mp inside
            exact .inl ⟨p, _, .member callee o role s' t s'' qs ps' y e p around whole banned⟩
          · refine .inr (.unknownModule callee _ o s' t qs y inside fun specifier listed names => ?_)
            exact whole ⟨specifier, listed, names⟩
        · refine .inr (.wrapped callee object _ o s' inside fun x s ps same => ?_)
          exact bare ⟨x, s, ps, same⟩
  · exact .inr (.chained callee core)

theorem unseen_iff (calls : CallsHost target program callee) : Unseen target program callee ↔
    (target.hostImports program).classify? callee = none := by
  constructor
  · intro unseen
    refine Option.eq_none_iff_forall_ne_some.mpr fun found classified => ?_
    exact (classify?_eq_some.mp classified).not_unseen unseen
  · intro missed
    rcases calls.banned_or_unseen with ⟨p, written, banned⟩ | unseen
    · rw [classify?_eq_some.mpr banned] at missed
      cases missed
    · exact unseen

theorem banned_of_callsHost (isCall : n.IsCall) (calls : CallsHost target program (n.part 0))
    (seen : ¬Unseen target program (n.part 0)) : ∃ p written, BannedCall target program n p written := by
  obtain ⟨p, written, banned⟩ := calls.banned_or_unseen.resolve_right seen
  exact ⟨p, written, isCall, banned⟩

theorem exists_reported (below : n ∈ program.preorder) (isCall : n.IsCall)
    (calls : CallsHost target program (n.part 0)) (seen : ¬Unseen target program (n.part 0)) :
    ∃ p written offset, (target.hostImports program).firstBannedCall? program =
      some ⟨.bannedCall p written, offset⟩ := by
  obtain ⟨problem, found⟩ :=
    exists_firstBannedCall?.mpr ⟨n, below, banned_of_callsHost isCall calls seen⟩
  obtain ⟨_, m, _, p, written, -, -, -, rfl⟩ := firstBannedCall?_eq_some.mp found
  exact ⟨p, written, _, found⟩

/-- A program with a call of a banned export is refused, unless the call is not seen to be one.
Nothing but its spelling and the way its name was imported matters for that, and not what is around
it. -/
theorem host_calls_refused (below : n ∈ program.preorder) (isCall : n.IsCall)
    (calls : CallsHost target program (n.part 0)) :
    (Unseen target program (n.part 0) ↔
        (target.hostImports program).classify? (n.part 0) = none) ∧
      (¬Unseen target program (n.part 0) →
        (∃ problem, checkNames target program = .error problem ∧
          problem.what.rule.code = "RSX-E002") ∧
        ∀ o path source m, o.target = target → m.tree = program → o.takes path = true →
          Module.parse source = .ok m →
            ∃ d, (compile o path source).result = .error d ∧ d.code = "RSX-E002") := by
  refine ⟨unseen_iff calls, fun seen => ?_⟩
  obtain ⟨p, written, offset, found⟩ := exists_reported below isCall calls seen
  refine ⟨⟨_, checkNames_of_bannedCall found, rfl⟩, ?_⟩
  rintro o path source m rfl rfl taken parsed
  exact ⟨_, compile_of_bannedCall taken parsed found, rfl⟩

def callsMember (target : Target) (imported : Node → Bool) (seen : Bool) (program : Node) : Bool :=
  match program.statements with
  | [statement, .mk .expression _ [call]] =>
    match call.kind, specifiersFrom target.hostModule statement, call.part 0 with
    | .call _ _, [specifier], .mk (.member _) _ [.mk (.name .value x) _ _, .mk (.name _ e) _ _] =>
      imported specifier && x == "R" && e == "useState" &&
        ((target.hostImports program).classify? (call.part 0)).isSome == seen
    | _, _, _ => false
  | _ => false

theorem exists_callsHost {imported : Node → Bool} {seen : Bool}
    (passes : callsMember target imported seen program = true)
    (gives : ∀ statement ∈ program.preorder, ∀ s ∈ specifiersFrom target.hostModule statement,
      imported s = true → ImportsAs target.hostModule program "default" "R") :
    ∃ n ∈ program.preorder, n.IsCall ∧ CallsHost target program (n.part 0) ∧
      ((target.hostImports program).classify? (n.part 0)).isSome = seen := by
  unfold callsMember at passes
  split at passes
  next statement s call statements =>
    split at passes
    next optional pure specifier o t x t' ps role e t'' ps' kind specifiers callee =>
      simp only [Bool.and_eq_true, beq_iff_eq] at passes
      obtain ⟨⟨⟨isDefault, rfl⟩, rfl⟩, classified⟩ := passes
      have first : statement ∈ program.preorder :=
        Node.mem_preorder_of_mem_statements (by simp [statements])
      have second : Node.mk .expression s [call] ∈ program.preorder :=
        Node.mem_preorder_of_mem_statements (by simp [statements])
      have inside : call ∈ (Node.mk .expression s [call]).preorder :=
        Node.preorder_of_mem_parts List.mem_cons_self call.self_mem_preorder
      have imports := gives statement first specifier (by simp [specifiers]) isDefault
      refine ⟨call, Node.preorder_trans second inside, ⟨optional, pure, kind⟩, ?_, classified⟩
      rw [callee]
      exact .member _ _ t' ps "R" "useState" .state (.dot ..) rfl (by decide +kernel)
        (.defaultExport "R" imports) .state
    next => cases passes
  next => cases passes

def importsDefault (s : Node) : Bool :=
  decide (s.kind = .importDefault ∧ writtenName (s.part 0) = "R")

def importsRenamedDefault (s : Node) : Bool :=
  decide (s.kind = .importNamed false ∧ writtenName (s.part 0) = "default" ∧
    writtenName (s.part 1) = "R")

def defaultText : String := "import R from \"react\"; R.useState(0);"

def renamedDefaultText : String := "import \x7b default as R \x7d from \"react\"; R.useState(0);"

set_option maxRecDepth 100000 in
theorem host_calls_refused_default :
    (∃ m n, Module.parse defaultText = .ok m ∧ n ∈ m.tree.preorder ∧ n.IsCall ∧
      CallsHost Options.default.target m.tree (n.part 0) ∧
      ¬Unseen Options.default.target m.tree (n.part 0) ∧
      ∃ d, (compile .default "A.rsx" defaultText).result = .error d ∧ d.code = "RSX-E002") ∧
    ∃ m n, Module.parse renamedDefaultText = .ok m ∧ n ∈ m.tree.preorder ∧ n.IsCall ∧
      CallsHost Options.default.target m.tree (n.part 0) ∧
      Unseen Options.default.target m.tree (n.part 0) ∧
      (compile .default "A.rsx" renamedDefaultText).result = .ok (.passthrough renamedDefaultText) := by
  have seen : parsedPasses (callsMember Options.default.target importsDefault true) defaultText =
      true := by decide +kernel
  have unseen : parsedPasses (callsMember Options.default.target importsRenamedDefault false)
      renamedDefaultText = true := by decide +kernel
  constructor
  · obtain ⟨m, parsed, passes⟩ := exists_parsed seen
    obtain ⟨n, below, isCall, calls, classified⟩ := exists_callsHost passes
      fun statement inside s listed imported => by
        obtain ⟨isDefault, same⟩ := of_decide_eq_true imported
        exact same ▸ .byDefault statement s inside listed isDefault
    obtain ⟨missed, refused⟩ := host_calls_refused below isCall calls
    have found : ¬Unseen Options.default.target m.tree (n.part 0) := fun unseen => by
      simp [missed.mp unseen] at classified
    exact ⟨m, n, parsed, below, isCall, calls, found,
      (refused found).2 .default "A.rsx" defaultText m rfl rfl (by decide +kernel) parsed⟩
  · obtain ⟨m, parsed, passes⟩ := exists_parsed unseen
    obtain ⟨n, below, isCall, calls, classified⟩ := exists_callsHost passes
      fun statement inside s listed imported => by
        obtain ⟨named, exported, bound⟩ := of_decide_eq_true imported
        exact bound ▸ exported ▸ .named statement s inside listed named
    obtain ⟨missed, -⟩ := host_calls_refused below isCall calls
    exact ⟨m, n, parsed, below, isCall, calls,
      missed.mpr (Option.not_isSome_iff_eq_none.mp (by simp [classified])),
      by decide +kernel⟩

end Rsx
