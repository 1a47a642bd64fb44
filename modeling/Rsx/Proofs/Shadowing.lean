import Rsx.Proofs.Replacing

set_option autoImplicit false

namespace Rsx

namespace Node

-- Every name that is taken for another variable at a place below `n`.
def hiddenOnWay (n : Node) : Place → List String
  | [] => []
  | i :: rest => (n.part i).hiddenOnWay rest ++ n.introduced

-- A use of an outer variable, outside types, that is taken for one of an inner variable.
structure TakenForInner (n : Node) (x : String) (place : Place) : Prop where
  means : n.MeansOuter x place
  runs : n.isTypeWay place = false
  hidden : x ∈ n.hiddenOnWay place

instance (stands : Option Node) (f : Node → Option String) (x : String) :
    Decidable (∃ m, stands = some m ∧ f m = some x) :=
  decidable_of_iff (stands.bind f = some x) Option.bind_eq_some_iff

instance (n : Node) (x : String) (place : Place) : Decidable (n.TakenForInner x place) :=
  decidable_of_iff ((∃ m, n.atPlace? place = some m ∧ m.use? = some x) ∧ x ∉ n.boundOnWay place ∧
      n.isTypeWay place = false ∧ x ∈ n.hiddenOnWay place)
    ⟨fun h => ⟨⟨h.1, h.2.1⟩, h.2.2.1, h.2.2.2⟩,
      fun h => ⟨h.means.uses, h.means.unbound, h.runs, h.hidden⟩⟩

-- A name of an inner variable, or of a type, that is taken for one of an outer variable.
structure TakenForOuter (n : Node) (x : String) (place : Place) : Prop where
  names : ∃ m, n.atPlace? place = some m ∧ m.leafName? = some x
  bound : x ∈ n.boundOnWay place ∨ n.isHeritageWay place = true
  seen : x ∉ n.hiddenOnWay place

instance (n : Node) (x : String) (place : Place) : Decidable (n.TakenForOuter x place) :=
  decidable_of_iff ((∃ m, n.atPlace? place = some m ∧ m.leafName? = some x) ∧
      (x ∈ n.boundOnWay place ∨ n.isHeritageWay place = true) ∧ x ∉ n.hiddenOnWay place)
    ⟨fun h => ⟨h.1, h.2.1, h.2.2⟩, fun h => ⟨h.names, h.bound, h.seen⟩⟩

def Mentions (n : Node) (x : String) : Prop :=
  n.Somewhere fun m around => m.use? = some x ∧ x ∉ around.bound ∧ around.isType = false

end Node

def RecordAccess.root : RecordAccess → String
  | direct => instanceName
  | viaRef => instanceRefName

theorem isReserved_instanceName : isReserved instanceName = true := by decide +kernel

theorem isReserved_instanceRefName : isReserved instanceRefName = true := by decide +kernel

theorem RecordAccess.isReserved_root (a : RecordAccess) : isReserved a.root = true := by
  cases a
  · exact isReserved_instanceName
  · exact isReserved_instanceRefName

namespace Substitution

variable (s : Substitution)

theorem replaces_root (shadowed : List String) : s.replaces shadowed s.access.root = false := by
  simp [replaces, RecordAccess.isReserved_root]

theorem promoted_of_replaces {shadowed : List String} {x : String}
    (replaces : s.replaces shadowed x = true) : x ∈ s.promoted := by
  simp only [Substitution.replaces, Bool.and_eq_true, List.contains_iff_mem] at replaces
  exact replaces.1.1.1

theorem replaces_eq (shadowed : List String) (x : String) :
    s.replaces shadowed x = (s.replaces [] x && !shadowed.contains x) := by
  simp [replaces]

-- Only leaves are replaced, so the way to a node is the way to what it becomes.
theorem apply_atPlace? {n m : Node} {place : Place} (stands : n.atPlace? place = some m)
    (shadowed : List String) :
    (s.apply shadowed n).atPlace? place =
      some (s.apply (n.hiddenOnWay place ++ shadowed) m) := by
  induction place generalizing n shadowed with
  | nil =>
    cases stands
    rfl
  | cons i rest ih =>
    obtain ⟨p, found, below⟩ := Node.atPlace?_cons_some.mp stands
    cases s.outcome shadowed n with
    | replaced x name _ _ =>
      obtain ⟨leaf, _⟩ := Node.leafName?_eq_some.mp name
      simp [leaf] at found
    | kept k _ _ result =>
      rw [result, Node.atPlace?_cons_some]
      refine ⟨s.apply (n.introduced ++ shadowed) p, by simp [found], ?_⟩
      rw [ih below, Node.hiddenOnWay, Node.part_of_getElem? found, List.append_assoc]

-- Where a node of the result comes from: from the node at its own place, or from a name further up.
inductive Origin (shadowed : List String) (n : Node) (place : Place) (r : Node) : Prop where
  | own (m : Node) (stands : n.atPlace? place = some m)
      (result : r = s.apply (n.hiddenOnWay place ++ shadowed) m)
  | slot (front : Place) (i : Nat) (rest : Place) (m : Node) (x : String)
      (split : place = front ++ i :: rest) (stands : n.atPlace? front = some m)
      (name : m.leafName? = some x)
      (replaces : s.replaces (n.hiddenOnWay front ++ shadowed) x = true)
      (below : (s.insertedFor m x).atPlace? (i :: rest) = some r)

theorem origin {n r : Node} {place : Place} {shadowed : List String}
    (stands : (s.apply shadowed n).atPlace? place = some r) : s.Origin shadowed n place r := by
  induction place generalizing n shadowed with
  | nil =>
    cases stands
    exact .own n rfl rfl
  | cons i rest ih =>
    cases s.outcome shadowed n with
    | replaced x name replaces result =>
      rw [result] at stands
      exact .slot [] i rest n x rfl rfl name replaces stands
    | kept k _ _ result =>
      rw [result, Node.atPlace?_cons_some] at stands
      obtain ⟨r', found, below⟩ := stands
      rw [Node.parts_mk, List.getElem?_map, Option.map_eq_some_iff] at found
      obtain ⟨p, part, rfl⟩ := found
      have way : ∀ front, n.hiddenOnWay (i :: front) ++ shadowed =
          p.hiddenOnWay front ++ (n.introduced ++ shadowed) := by
        intro front
        rw [Node.hiddenOnWay, Node.part_of_getElem? part, List.append_assoc]
      cases ih below with
      | own m stands result =>
        exact .own m (Node.atPlace?_cons_some.mpr ⟨p, part, stands⟩) (way rest ▸ result)
      | slot front j back m x split stands name replaces inside =>
        exact .slot (i :: front) j back m x (by simp [split])
          (Node.atPlace?_cons_some.mpr ⟨p, part, stands⟩) name (way front ▸ replaces) inside

theorem reference?_apply {shadowed : List String} {n : Node} {x : String}
    (found : (s.apply shadowed n).reference? = some x) : n.reference? = some x := by
  cases s.outcome shadowed n with
  | replaced y name _ result =>
    rw [result] at found
    unfold insertedFor at found
    split at found <;> cases found
  | kept k adjusted _ result =>
    rw [result] at found
    rcases adjusted with rfl | ⟨i, _, rfl⟩
    · exact found
    · cases found

theorem leafName?_apply {shadowed : List String} {n : Node} {x : String} :
    (s.apply shadowed n).leafName? = some x ↔
      n.leafName? = some x ∧ s.replaces shadowed x = false := by
  cases s.outcome shadowed n with
  | replaced y name replaces result =>
    constructor
    · intro found
      rw [result] at found
      unfold insertedFor at found
      split at found <;> cases found
    · rintro ⟨same, kept⟩
      cases name.symm.trans same
      simp [replaces] at kept
  | kept k adjusted untouched result =>
    have same : (s.apply shadowed n).leafName? = some x ↔ n.leafName? = some x := by
      rw [result, Node.leafName?_eq_some, Node.leafName?_eq_some]
      rcases adjusted with rfl | ⟨i, kind, rfl⟩
      · simp
      · simp [kind]
    rw [same]
    exact ⟨fun name => ⟨name, untouched x name⟩, fun both => both.1⟩

theorem use?_apply {shadowed : List String} {n : Node} {x : String}
    (found : (s.apply shadowed n).use? = some x) :
    n.use? = some x ∧ (n.leafName? = some x → s.replaces shadowed x = false) := by
  rcases Node.use?_eq_some.mp found with leaf | ⟨kind, name, rest, parts, refers⟩
  · obtain ⟨leaf, kept⟩ := s.leafName?_apply.mp leaf
    exact ⟨Node.use?_eq_some.mpr (.inl leaf), fun _ => kept⟩
  · cases s.outcome shadowed n with
    | replaced y _ _ result =>
      rw [result] at kind
      unfold insertedFor at kind
      split at kind <;> cases kind
    | kept k adjusted untouched result =>
      refine ⟨?_, untouched x⟩
      rw [result] at kind parts
      rcases adjusted with rfl | ⟨i, _, rfl⟩
      · rw [Node.parts_mk, List.map_eq_cons_iff] at parts
        obtain ⟨name, rest, whole, rfl, rfl⟩ := parts
        exact Node.use?_eq_some.mpr
          (.inr ⟨kind, name, rest, whole, s.reference?_apply refers⟩)
      · cases kind

-- A slot is generated, and is reached through the record only.
theorem of_inserted {m r : Node} {x : String} (below : r ∈ (s.insertedFor m x).preorder) :
    r.span = .nowhere ∧ ∀ y, r.reference? = some y → y = s.access.root := by
  unfold insertedFor at below
  split at below <;> cases access : s.access <;>
    simp [access, RecordAccess.slot, RecordAccess.object, tagMember, tagObject, tagRoot,
      Node.memberOf, Node.value, Node.propertyName, Node.generated, Node.preorder_mk] at below <;>
    rcases below with rfl | rfl | rfl | rfl | rfl <;>
    exact ⟨rfl, fun y refers => by cases refers <;> rfl⟩

theorem use?_of_inserted {m r : Node} {x y : String} {back : Place}
    (below : (s.insertedFor m x).atPlace? back = some r) (uses : r.use? = some y) :
    y = s.access.root := by
  have inside := Node.mem_preorder_of_atPlace? below
  rcases Node.use?_eq_some.mp uses with leaf | ⟨kind, _⟩
  · obtain ⟨_, kind | kind | kind⟩ := Node.leafName?_eq_some.mp leaf <;>
      exact (s.of_inserted inside).2 y (by simp [Node.reference?, kind])
  · have plain := s.plain_insertedFor m x r inside
    rw [kind] at plain
    cases plain

theorem mentions_apply {n : Node} {x : String} (promoted : s.replaces [] x = true)
    (named : ∀ m ∈ n.preorder, m.use? = some x → m.leafName? = some x) :
    (s.apply [] n).Mentions x ↔ ∃ place, n.TakenForInner x place := by
  constructor
  · rintro ⟨place, r, stands, uses, unbound, runs⟩
    rw [(s.stable_surroundings place).apply] at unbound runs
    cases s.origin stands with
    | own m stands result =>
      obtain ⟨uses, kept⟩ := s.use?_apply (result ▸ uses)
      have name := named m (Node.mem_preorder_of_atPlace? stands) uses
      refine ⟨place, ⟨⟨m, stands, uses⟩, unbound⟩, runs, ?_⟩
      have hidden := kept name
      rw [replaces_eq, promoted] at hidden
      simpa using hidden
    | slot front i rest m y _ _ _ _ below =>
      have root := s.use?_of_inserted below uses
      rw [root, s.replaces_root] at promoted
      cases promoted
  · rintro ⟨place, ⟨⟨m, stands, uses⟩, unbound⟩, runs, hidden⟩
    refine ⟨place, _, s.apply_atPlace? stands [], ?_⟩
    rw [(s.stable_surroundings place).apply]
    refine ⟨?_, unbound, runs⟩
    have name := named m (Node.mem_preorder_of_atPlace? stands) uses
    refine Node.use?_eq_some.mpr (.inl (s.leafName?_apply.mpr ⟨name, ?_⟩))
    rw [replaces_eq]
    simp [hidden]

end Substitution

end Rsx
