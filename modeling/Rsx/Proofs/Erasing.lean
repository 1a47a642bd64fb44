import Rsx.Proofs.Shadowing

set_option autoImplicit false

namespace Rsx

namespace Node

def isLeafNamed (role : NameRole) (x : String) (n : Node) : Bool :=
  match n.kind, n.parts with
  | .name role' y, [] => role' == role && y == x
  | _, _ => false

def isHolder (member : Kind) (root key : NameRole) (n : Node) : Bool :=
  n.isLeafNamed root instanceName ||
    n.kind == member &&
      match n.parts with
      | [ref, current] => ref.isLeafNamed root instanceRefName && current.isLeafNamed key "current"
      | _ => false

def isRecord : Node → Bool := isHolder (.member false) .value .property

def isTagRecord : Node → Bool := isHolder .tagMember .tagRoot .tagText

-- The name that a slot of the record stands for.
def accessed? (k : Kind) (ps : List Node) : Option Kind :=
  match k, ps with
  | .member false, [object, mk (.name .property x) _ []] =>
    if object.isRecord then some (.name .value x) else none
  | .tagMember, [object, mk (.name .tagText x) _ []] =>
    if object.isTagRecord then some (.name .tag x) else none
  | _, _ => none

-- The first name of a dotted element name is known by where it stands.
def bareKind : Kind → Kind
  | .property info => .property { info with shorthand := false }
  | .name .tagRoot x => .name .tag x
  | k => k

mutual

def bare : Node → Node
  | mk k _ ps =>
    match accessed? k ps with
    | some name => mk name .nowhere []
    | none => mk (bareKind k) .nowhere (bareList ps)

def bareList : List Node → List Node
  | [] => []
  | n :: rest => n.bare :: bareList rest

end

theorem bareList_eq (ps : List Node) : bareList ps = ps.map bare := by
  induction ps with
  | nil => simp [bareList]
  | cons p rest ih => simp [bareList, ih]

def Clean (n : Node) : Prop := ∀ m ∈ n.preorder, reservedUse? m = none

theorem Clean.of_mem {n p : Node} (clean : n.Clean) (part : p ∈ n.parts) : p.Clean :=
  fun m below => clean m (preorder_of_mem_parts part below)

theorem Clean.below {n m : Node} (clean : n.Clean) (below : m ∈ n.preorder) : m.Clean :=
  fun l deeper => clean l (preorder_trans below deeper)

theorem Clean.reference {n : Node} (clean : n.Clean) {x : String} (refers : n.reference? = some x) :
    isReserved x = false := by
  have free := clean n n.self_mem_preorder
  cases bound : n.binding? with
  | none => simpa [reservedUse?, bound, refers] using free
  | some y =>
    unfold binding? at bound
    unfold reference? at refers
    split at bound <;> simp_all

theorem Clean.binding {n : Node} (clean : n.Clean) {x : String} (binds : n.binding? = some x) :
    isReserved x = false := by
  have free := clean n n.self_mem_preorder
  simpa [reservedUse?, binds] using free

theorem clean_iff {n : Node} : n.Clean ↔ firstReservedUse? n = none := by
  simp [Clean, firstReservedUse?]

theorem Clean.part {n : Node} (clean : n.Clean) (i : Nat) : (n.part i).Clean := by
  rcases n.part_mem_or i with part | missing
  · exact clean.of_mem part
  · rw [missing, clean_iff]
    rfl

theorem isLeafNamed_iff {role : NameRole} {x : String} {n : Node} :
    n.isLeafNamed role x = true ↔ n.kind = .name role x ∧ n.parts = [] := by
  obtain ⟨k, span, ps⟩ := n
  unfold isLeafNamed
  split
  next role' y kind leaf =>
    cases kind
    cases leaf
    simp
  next other =>
    simp only [Bool.false_eq_true, false_iff, not_and]
    exact fun kind leaf => other role x kind leaf

theorem isHolder_cases {member : Kind} {root key : NameRole} {n : Node}
    (holds : n.isHolder member root key = true) :
    n.isLeafNamed root instanceName = true ∨
      ∃ ref current, n.parts = [ref, current] ∧ ref.isLeafNamed root instanceRefName = true := by
  unfold isHolder at holds
  rcases Bool.or_eq_true_iff.mp holds with leaf | both
  · exact .inl leaf
  · refine .inr ?_
    obtain ⟨_, named⟩ := Bool.and_eq_true_iff.mp both
    split at named
    next ref current parts => exact ⟨ref, current, parts, (Bool.and_eq_true_iff.mp named).1⟩
    next => cases named

theorem accessed?_eq_none {k : Kind} {ps : List Node}
    (noRecord : ∀ object ∈ ps, object.isRecord = false ∧ object.isTagRecord = false) :
    accessed? k ps = none := by
  unfold accessed?
  split
  next object _ _ => simp [(noRecord object (by simp)).1]
  next object _ _ => simp [(noRecord object (by simp)).2]
  next => rfl

theorem Clean.not_leafNamed {n : Node} (clean : n.Clean) {role : NameRole} {x : String}
    (refers : role = .value ∨ role = .tagRoot) (reserved : isReserved x = true) :
    n.isLeafNamed role x = false := by
  refine Bool.eq_false_iff.mpr fun named => ?_
  obtain ⟨kind, _⟩ := isLeafNamed_iff.mp named
  have unreserved := clean.reference (x := x)
    (by rcases refers with rfl | rfl <;> simp [reference?, kind])
  simp [reserved] at unreserved

theorem Clean.not_holder {n : Node} (clean : n.Clean) {member : Kind} {root key : NameRole}
    (refers : root = .value ∨ root = .tagRoot) : n.isHolder member root key = false := by
  refine Bool.eq_false_iff.mpr fun holds => ?_
  rcases isHolder_cases holds with leaf | ⟨ref, current, parts, named⟩
  · simp [clean.not_leafNamed refers isReserved_instanceName] at leaf
  · have cleanRef : ref.Clean := clean.of_mem (by simp [parts])
    simp [cleanRef.not_leafNamed refers isReserved_instanceRefName] at named

theorem Clean.accessed?_parts {n : Node} (clean : n.Clean) (k : Kind) :
    accessed? k n.parts = none :=
  accessed?_eq_none fun _ part =>
    ⟨(clean.of_mem part).not_holder (.inl rfl), (clean.of_mem part).not_holder (.inr rfl)⟩

end Node

namespace Substitution

variable (s : Substitution) {shadowed : List String} {n : Node}

theorem isLeafNamed_apply {role : NameRole} {x : String}
    (named : (s.apply shadowed n).isLeafNamed role x = true) : n.isLeafNamed role x = true := by
  obtain ⟨kind, leaf⟩ := Node.isLeafNamed_iff.mp named
  cases s.outcome shadowed n with
  | replaced y _ _ result =>
    rw [result] at kind
    unfold insertedFor at kind
    split at kind <;> cases kind
  | kept k adjusted _ result =>
    rw [result] at kind leaf
    rcases adjusted with rfl | ⟨i, _, rfl⟩
    · exact Node.isLeafNamed_iff.mpr ⟨kind, List.map_eq_nil_iff.mp leaf⟩
    · cases kind

theorem isHolder_insertedFor (n : Node) (x : String) (member : Kind) (root key : NameRole) :
    (s.insertedFor n x).isHolder member root key = false := by
  refine Bool.eq_false_iff.mpr fun holds => ?_
  have different : instanceName ≠ instanceRefName := by decide
  unfold insertedFor at holds
  split at holds <;> rcases Node.isHolder_cases holds with leaf | ⟨ref, current, parts, named⟩
  · cases leaf
  · obtain ⟨kind, _⟩ := Node.isLeafNamed_iff.mp named
    cases access : s.access <;> rw [access] at parts <;> cases parts
    · exact different (Kind.name.inj kind).2
    · cases kind
  · cases leaf
  · obtain ⟨kind, _⟩ := Node.isLeafNamed_iff.mp named
    cases access : s.access <;> rw [access] at parts <;> cases parts
    · exact different (Kind.name.inj kind).2
    · cases kind

-- Code without reserved names does not come to look like the record.
theorem isHolder_apply {member : Kind} {root key : NameRole}
    (refers : root = .value ∨ root = .tagRoot) (clean : n.Clean) :
    (s.apply shadowed n).isHolder member root key = false := by
  cases s.outcome shadowed n with
  | replaced y _ _ result => rw [result, isHolder_insertedFor]
  | kept k adjusted _ result =>
    refine Bool.eq_false_iff.mpr fun holds => ?_
    rcases Node.isHolder_cases holds with leaf | ⟨ref, current, parts, named⟩
    · have leaf := s.isLeafNamed_apply leaf
      simp [clean.not_leafNamed refers isReserved_instanceName] at leaf
    · rw [result, Node.parts_mk] at parts
      obtain ⟨first, rest, whole, rfl, _⟩ := List.map_eq_cons_iff.mp parts
      have cleanFirst : first.Clean := clean.of_mem (by simp [whole])
      have named := s.isLeafNamed_apply named
      simp [cleanFirst.not_leafNamed refers isReserved_instanceRefName] at named

theorem accessed?_map (within : List String) (clean : n.Clean) (k : Kind) :
    Node.accessed? k (n.parts.map (s.apply within)) = none := by
  refine Node.accessed?_eq_none fun object member => ?_
  obtain ⟨p, part, rfl⟩ := List.mem_map.mp member
  exact ⟨s.isHolder_apply (.inl rfl) (clean.of_mem part),
    s.isHolder_apply (.inr rfl) (clean.of_mem part)⟩

theorem bare_insertedFor {x : String} (name : n.leafName? = some x) :
    (s.insertedFor n x).bare = n.bare := by
  obtain ⟨k, span, ps⟩ := n
  obtain ⟨rfl, rfl | rfl | rfl⟩ := Node.leafName?_eq_some.mp name <;>
    cases access : s.access <;> simp [insertedFor, access] <;> rfl

theorem bare_apply (clean : n.Clean) : (s.apply shadowed n).bare = n.bare := by
  induction n using Node.induction generalizing shadowed with
  | node k span ps ih =>
    cases s.outcome shadowed (.mk k span ps) with
    | replaced x name _ result => rw [result, s.bare_insertedFor name]
    | kept k' adjusted _ result =>
      have before : Node.accessed? k ps = none := clean.accessed?_parts k
      have after := s.accessed?_map ((Node.mk k span ps).introduced ++ shadowed) clean k'
      have kinds : Node.bareKind k' = Node.bareKind k := by
        rcases adjusted with rfl | ⟨i, kind, rfl⟩
        · rfl
        · cases kind
          rfl
      have parts : (ps.map (s.apply ((Node.mk k span ps).introduced ++ shadowed))).map Node.bare =
          ps.map Node.bare := by
        rw [List.map_map]
        exact List.map_congr_left fun p part => ih p part (clean.of_mem part)
      rw [Node.parts_mk] at after
      simp only [result, Node.bare, Node.parts_mk, before, after, kinds, Node.bareList_eq, parts]

end Substitution

end Rsx
