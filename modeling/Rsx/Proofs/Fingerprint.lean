import Rsx.Compile
import Rsx.Proofs.Bytes
import Rsx.Proofs.HostCalls

set_option autoImplicit false

namespace Rsx

namespace Options

structure SameMarks (o₁ o₂ : Options) : Prop where
  extensions : "\x00".intercalate o₁.extensions = "\x00".intercalate o₂.extensions
  includes : o₁.includePattern.getD "" = o₂.includePattern.getD ""
  excludes : o₁.excludePattern.getD "" = o₂.excludePattern.getD ""
  host : o₁.hostModule = o₂.hostModule
  banned : "\x00".intercalate o₁.extraBanned = "\x00".intercalate o₂.extraBanned
  map : o₁.sourceMap = o₂.sourceMap

theorem split_field {s t : String} {u v : List UInt8}
    (same : utf8 s ++ 0xff :: u = utf8 t ++ 0xff :: v) : s = t ∧ u = v := by
  obtain ⟨first, rest⟩ := split_at_mark (mark_notMem_utf8 s) (mark_notMem_utf8 t) same
  exact ⟨utf8_injective first, rest⟩

theorem sameMarks_of_bytes {o₁ o₂ : Options} (same : o₁.fingerprintBytes = o₂.fingerprintBytes) :
    SameMarks o₁ o₂ := by
  obtain ⟨extensions, same⟩ := split_field same
  obtain ⟨includes, same⟩ := split_field same
  obtain ⟨excludes, same⟩ := split_field same
  obtain ⟨host, same⟩ := split_field same
  obtain ⟨banned, last⟩ := List.append_inj' same rfl
  refine ⟨extensions, includes, excludes, host, utf8_injective banned, ?_⟩
  cases m₁ : o₁.sourceMap <;> cases m₂ : o₂.sourceMap <;> simp_all

end Options

theorem toList_joined (x y : String) (ys : List String) :
    ("\x00".intercalate (x :: y :: ys)).toList =
      x.toList ++ '\x00' :: ("\x00".intercalate (y :: ys)).toList := by
  rw [String.intercalate_cons_cons, String.toList_append, String.toList_append]
  simp

theorem joined_injective {xs ys : List String} (plainX : ∀ x ∈ xs, '\x00' ∉ x.toList)
    (plainY : ∀ y ∈ ys, '\x00' ∉ y.toList) (empty : xs.isEmpty = ys.isEmpty)
    (same : "\x00".intercalate xs = "\x00".intercalate ys) : xs = ys := by
  induction xs generalizing ys with
  | nil =>
    cases ys with
    | nil => rfl
    | cons => cases empty
  | cons x xs ih =>
    cases ys with
    | nil => cases empty
    | cons y ys =>
      have plainx := plainX x List.mem_cons_self
      have plainy := plainY y List.mem_cons_self
      have same := congrArg String.toList same
      cases xs with
      | nil =>
        rw [String.intercalate_singleton] at same
        cases ys with
        | nil =>
          rw [String.intercalate_singleton] at same
          rw [String.toList_inj.mp same]
        | cons y' ys =>
          rw [toList_joined] at same
          exact absurd (by simp [same]) plainx
      | cons x' xs =>
        rw [toList_joined] at same
        cases ys with
        | nil =>
          rw [String.intercalate_singleton] at same
          exact absurd (by simp [← same]) plainy
        | cons y' ys =>
          rw [toList_joined] at same
          obtain ⟨first, later⟩ := split_at_mark plainx plainy same
          have rest := ih (fun z member => plainX z (List.mem_cons_of_mem _ member))
            (fun z member => plainY z (List.mem_cons_of_mem _ member)) rfl (String.toList_inj.mp later)
          rw [String.toList_inj.mp first, rest]

namespace HostImports

structure SameNames (h₁ h₂ : HostImports) : Prop where
  aliases : h₁.aliases = h₂.aliases
  namespaces : h₁.namespaces = h₂.namespaces
  banned : ∀ name, Primitive.ofExport? h₁.extra name = Primitive.ofExport? h₂.extra name

theorem SameNames.addSpecifier {h₁ h₂ : HostImports} (same : SameNames h₁ h₂) (specifier : Node) :
    SameNames (h₁.addSpecifier specifier) (h₂.addSpecifier specifier) := by
  obtain ⟨aliases, namespaces, banned⟩ := same
  unfold HostImports.addSpecifier
  split
  next =>
    unfold addAlias
    rw [banned]
    split
    next => exact ⟨by rw [aliases], namespaces, banned⟩
    next => exact ⟨aliases, namespaces, banned⟩
  next => exact ⟨aliases, by rw [namespaces], banned⟩
  next => exact ⟨aliases, by rw [namespaces], banned⟩
  next => exact ⟨aliases, namespaces, banned⟩

theorem SameNames.foldl {h₁ h₂ : HostImports} (same : SameNames h₁ h₂) (specifiers : List Node) :
    SameNames (specifiers.foldl HostImports.addSpecifier h₁)
      (specifiers.foldl HostImports.addSpecifier h₂) := by
  induction specifiers generalizing h₁ h₂ with
  | nil => exact same
  | cons specifier rest ih => exact ih (same.addSpecifier specifier)

theorem SameNames.bannedCall? {h₁ h₂ : HostImports} (same : SameNames h₁ h₂) (n : Node) :
    h₁.bannedCall? n = h₂.bannedCall? n := by
  obtain ⟨aliases, namespaces, banned⟩ := same
  have classified : ∀ callee, h₁.classify? callee = h₂.classify? callee := by
    intro callee
    simp only [classify?, lookup?, aliases, namespaces, banned]
  simp only [HostImports.bannedCall?, classified]

end HostImports

theorem checkNames_banned {t₁ t₂ : Target} (host : t₁.hostModule = t₂.hostModule)
    (banned : ∀ name, Primitive.ofExport? t₁.extraBanned name = Primitive.ofExport? t₂.extraBanned name)
    (program : Node) : checkNames t₁ program = checkNames t₂ program := by
  have start : HostImports.SameNames ⟨[], [], t₁.extraBanned⟩ ⟨[], [], t₂.extraBanned⟩ :=
    ⟨rfl, rfl, banned⟩
  have calls := (start.foldl (program.statements.flatMap
    (HostImports.specifiersFrom t₂.hostModule))).bannedCall?
  have first := funext calls
  simp only [checkNames, HostImports.ofProgram, HostImports.firstBannedCall?, host]
  rw [first]

theorem transform_banned (t₁ t₂ : Target) (host : t₁.hostModule = t₂.hostModule)
    (banned : ∀ name, Primitive.ofExport? t₁.extraBanned name = Primitive.ofExport? t₂.extraBanned name)
    (map : t₁.sourceMap = t₂.sourceMap) (path source : String) :
    transform t₁ path source = transform t₂ path source := by
  have names : ∀ program, checkNames t₁ program = checkNames t₂ program := checkNames_banned host banned
  unfold transform
  simp only [transformModule, transformComponent, names, printed, rebuildProgram?, host, map]

theorem compile_of_filter {o : Options} {f : FileFilter} (valid : o.validate = .ok ())
    (compiles : FileFilter.ofOptions o = .ok f) (path source : String) :
    (compile o path source).result =
      if f.accepts path then (transform o.target path source).result else .ok (.passthrough source) := by
  simp only [compile, valid, compiles]
  split
  next => rfl
  next => rfl

theorem transform_open (t : Target) (path : String) : ∃ d, (transform t path "(").result = .error d := by
  have unread : (Module.parse "(").toBool = false := by decide +kernel
  cases found : Module.parse "(" with
  | ok m =>
    rw [found] at unread
    cases unread
  | error fault => exact ⟨_, by rw [transform, found]⟩

-- A pattern that is not given includes what the empty one does.
theorem matchesSome_included {name : String} {p₁ p₂ : Option String} {r₁ r₂ : Option Pattern.Regex}
    (same : p₁.getD "" = p₂.getD "") (compiles₁ : FileFilter.pattern? name p₁ = .ok r₁)
    (compiles₂ : FileFilter.pattern? name p₂ = .ok r₂) (path : String) :
    FileFilter.matchesSome r₁ path true = FileFilter.matchesSome r₂ path true := by
  have empty : ∀ r, FileFilter.pattern? name (some "") = .ok r →
      FileFilter.matchesSome r path true = true := by
    rintro r compiles
    have compiled : FileFilter.pattern? name (some "") = .ok (some .empty) := rfl
    rw [compiled] at compiles
    cases compiles
    simp [FileFilter.matchesSome, Pattern.Regex.isMatch, Pattern.Regex.reach]
  cases p₁ with
  | none =>
    cases compiles₁
    cases p₂ with
    | none =>
      cases compiles₂
      rfl
    | some p =>
      cases same
      exact (empty r₂ compiles₂).symm
  | some p =>
    cases p₂ with
    | none =>
      cases same
      cases compiles₂
      exact empty r₁ compiles₁
    | some q =>
      cases same
      rw [compiles₁] at compiles₂
      cases compiles₂
      rfl

def Options.isPlain (o : Options) : Bool :=
  (o.extensions ++ o.extraBanned).all fun s => !s.toList.contains '\x00'

theorem Options.isPlain_iff {o : Options} : o.isPlain = true ↔
    (∀ s ∈ o.extensions, '\x00' ∉ s.toList) ∧ ∀ s ∈ o.extraBanned, '\x00' ∉ s.toList := by
  simp [isPlain]

theorem ofOptions_ok {o : Options} {f : FileFilter} (compiles : FileFilter.ofOptions o = .ok f) :
    FileFilter.pattern? "include" o.includePattern = .ok f.includes ∧
      FileFilter.pattern? "exclude" o.excludePattern = .ok f.excludes ∧ f.extensions = o.extensions := by
  unfold FileFilter.ofOptions at compiles
  cases included : FileFilter.pattern? "include" o.includePattern with
  | error d =>
    rw [included] at compiles
    cases compiles
  | ok includes =>
    cases excluded : FileFilter.pattern? "exclude" o.excludePattern with
    | error d =>
      rw [included, excluded] at compiles
      cases compiles
    | ok excludes =>
      rw [included, excluded] at compiles
      cases compiles
      exact ⟨rfl, rfl, rfl⟩

theorem extensions_of_valid {o : Options} (valid : o.validate = .ok ()) :
    o.extensions.isEmpty = false := by
  unfold Options.validate at valid
  split_ifs at valid with empty
  simpa using empty

theorem ofExport?_of_isSome {extra₁ extra₂ : List String} {name : String}
    (same : (Primitive.ofExport? extra₁ name).isSome = (Primitive.ofExport? extra₂ name).isSome) :
    Primitive.ofExport? extra₁ name = Primitive.ofExport? extra₂ name := by
  unfold Primitive.ofExport? at same ⊢
  split_ifs at same ⊢ <;> simp_all

-- Equal lists of extensions and equal patterns to exclude; of the patterns to include, equal texts.
theorem accepts_of_marks {o₁ o₂ : Options} {f₁ f₂ : FileFilter}
    (compiles₁ : FileFilter.ofOptions o₁ = .ok f₁) (compiles₂ : FileFilter.ofOptions o₂ = .ok f₂)
    (marks : o₁.SameMarks o₂) (extensions : o₁.extensions = o₂.extensions)
    (excluded : o₁.excludePattern.isSome = o₂.excludePattern.isSome) (path : String) :
    f₁.accepts path = f₂.accepts path := by
  obtain ⟨includes₁, excludes₁, extensions₁⟩ := ofOptions_ok compiles₁
  obtain ⟨includes₂, excludes₂, extensions₂⟩ := ofOptions_ok compiles₂
  have included := matchesSome_included marks.includes includes₁ includes₂ path
  have patterns : o₁.excludePattern = o₂.excludePattern := by
    have texts := marks.excludes
    cases e₁ : o₁.excludePattern <;> cases e₂ : o₂.excludePattern <;> simp_all
  have excludes : f₁.excludes = f₂.excludes := by
    rw [patterns, excludes₂] at excludes₁
    exact (Except.ok.inj excludes₁).symm
  rw [FileFilter.accepts, FileFilter.accepts, included, excludes, extensions₁, extensions₂, extensions]

section OneFingerprint

variable {o₁ o₂ : Options} {f₁ f₂ : FileFilter} (valid₁ : o₁.validate = .ok ())
  (valid₂ : o₂.validate = .ok ()) (compiles₁ : FileFilter.ofOptions o₁ = .ok f₁)
  (compiles₂ : FileFilter.ofOptions o₂ = .ok f₂)

include valid₁ valid₂ compiles₁ compiles₂

theorem compile_alike (marks : o₁.SameMarks o₂) (files : ∀ path, f₁.accepts path = f₂.accepts path)
    (names : (∃ path, f₁.accepts path = true) →
      ∀ name, Primitive.ofExport? o₁.extraBanned name = Primitive.ofExport? o₂.extraBanned name)
    (path source : String) : (compile o₁ path source).result = (compile o₂ path source).result := by
  rw [compile_of_filter valid₁ compiles₁, compile_of_filter valid₂ compiles₂, files path]
  split
  next taken =>
    have banned := names ⟨path, by rw [files path, taken]⟩
    rw [transform_banned o₁.target o₂.target marks.host banned marks.map]
  next => rfl

theorem accepts_alike
    (alike : ∀ path source, (compile o₁ path source).result = (compile o₂ path source).result)
    (path : String) : f₁.accepts path = f₂.accepts path := by
  have opened := alike path "("
  rw [compile_of_filter valid₁ compiles₁, compile_of_filter valid₂ compiles₂] at opened
  obtain ⟨d₁, failed₁⟩ := transform_open o₁.target path
  obtain ⟨d₂, failed₂⟩ := transform_open o₂.target path
  rw [failed₁, failed₂] at opened
  cases taken₁ : f₁.accepts path <;> cases taken₂ : f₂.accepts path <;> simp_all

theorem banned_alike (marks : o₁.SameMarks o₂)
    (alike : ∀ path source, (compile o₁ path source).result = (compile o₂ path source).result)
    {path : String} (taken : f₁.accepts path = true) (name : String) :
    Primitive.ofExport? o₁.extraBanned name = Primitive.ofExport? o₂.extraBanned name := by
  have taken₂ : f₂.accepts path = true := by
    rw [← accepts_alike valid₁ valid₂ compiles₁ compiles₂ alike path, taken]
  obtain ⟨source, offset, called⟩ := HostCall.transform_text name o₂.hostModule
  have outcome := alike path source
  rw [compile_of_filter valid₁ compiles₁, compile_of_filter valid₂ compiles₂, if_pos taken, if_pos taken₂,
    called o₁.target path marks.host, called o₂.target path rfl] at outcome
  change Primitive.ofExport? o₁.target.extraBanned name = Primitive.ofExport? o₂.target.extraBanned name
  refine ofExport?_of_isSome ?_
  cases first : Primitive.ofExport? o₁.target.extraBanned name <;>
    cases second : Primitive.ofExport? o₂.target.extraBanned name <;> simp_all

end OneFingerprint

/-- Options of one fingerprint compile alike exactly if they take the same files and, if there are
any, ban the same names. Without a NUL in the extensions and the banned names, they do if a pattern
to exclude is given in both or in neither and names are banned in both or in neither. -/
theorem fingerprint_separates {o₁ o₂ : Options} {f₁ f₂ : FileFilter} (valid₁ : o₁.validate = .ok ())
    (valid₂ : o₂.validate = .ok ()) (compiles₁ : FileFilter.ofOptions o₁ = .ok f₁)
    (compiles₂ : FileFilter.ofOptions o₂ = .ok f₂)
    (same : o₁.fingerprintBytes = o₂.fingerprintBytes) :
    ((∀ path source, (compile o₁ path source).result = (compile o₂ path source).result) ↔
      (∀ path, f₁.accepts path = f₂.accepts path) ∧
        ((∃ path, f₁.accepts path = true) →
          ∀ name, Primitive.ofExport? o₁.extraBanned name = Primitive.ofExport? o₂.extraBanned name)) ∧
    (o₁.excludePattern.isSome = o₂.excludePattern.isSome →
      o₁.extraBanned.isEmpty = o₂.extraBanned.isEmpty → o₁.isPlain = true → o₂.isPlain = true →
      ∀ path source, (compile o₁ path source).result = (compile o₂ path source).result) := by
  have marks := Options.sameMarks_of_bytes same
  constructor
  · constructor
    · intro alike
      refine ⟨accepts_alike valid₁ valid₂ compiles₁ compiles₂ alike, ?_⟩
      rintro ⟨path, taken⟩
      exact banned_alike valid₁ valid₂ compiles₁ compiles₂ marks alike taken
    · rintro ⟨files, names⟩
      exact compile_alike valid₁ valid₂ compiles₁ compiles₂ marks files names
  · intro excluded banned plain₁ plain₂
    have plain₁ := Options.isPlain_iff.mp plain₁
    have plain₂ := Options.isPlain_iff.mp plain₂
    have given : o₁.extensions.isEmpty = o₂.extensions.isEmpty := by
      rw [extensions_of_valid valid₁, extensions_of_valid valid₂]
    have extensions := joined_injective plain₁.1 plain₂.1 given marks.extensions
    have bans := joined_injective plain₁.2 plain₂.2 banned marks.banned
    have files := accepts_of_marks compiles₁ compiles₂ marks extensions excluded
    exact compile_alike valid₁ valid₂ compiles₁ compiles₂ marks files fun _ name => by rw [bans]

-- Two banned names, and one that is written as the two with the mark between them.
def splitOptions : Options := ⟨[".rsx"], none, none, "react", ["useX", "useY"], false, none⟩

def joinedOptions : Options := ⟨[".rsx"], none, none, "react", ["useX\x00useY"], false, none⟩

theorem fingerprint_separates_joined :
    splitOptions.fingerprintBytes = joinedOptions.fingerprintBytes ∧
      ¬ ∀ path source, (compile splitOptions path source).result =
        (compile joinedOptions path source).result := by
  have same : splitOptions.fingerprintBytes = joinedOptions.fingerprintBytes := by decide +kernel
  have split : FileFilter.ofOptions splitOptions = .ok ⟨[".rsx"], none, none⟩ := rfl
  have joined : FileFilter.ofOptions joinedOptions = .ok ⟨[".rsx"], none, none⟩ := rfl
  have taken : FileFilter.accepts ⟨[".rsx"], none, none⟩ "A.rsx" = true := by decide +kernel
  refine ⟨same, fun alike => ?_⟩
  have names := ((fingerprint_separates rfl rfl split joined same).1.mp alike).2 ⟨"A.rsx", taken⟩
  exact absurd (names "useX") (by decide)

end Rsx
