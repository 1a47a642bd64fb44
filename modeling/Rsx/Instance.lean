import Rsx.Promotion

set_option autoImplicit false

namespace Rsx

namespace Instance

def setupName : String := "__rsx_setup"

def slotOf (x : String) : Node := RecordAccess.direct.slot x

def assign (target value : Node) : Node := .statement (.assigned target value)

def calls (callee : String) (arguments : List Node) : Node := .callOf (.value callee) arguments

def boolean (b : Bool) : Node := .generated (.boolLit b) []

def null : Node := .generated .nullLit []

def undefined : Node := .value "undefined"

-- Slots that every record has, with their first values.
def internalSlots : List (String × Node) :=
  [("__rsx_initialized", boolean false),
    ("__rsx_prevProps", undefined),
    ("__rsx_currentProps", undefined),
    ("__rsx_viewCb", null),
    ("__rsx_updateCb", null),
    ("__rsx_destroyCb", null),
    ("__rsx_viewResult", null),
    ("__rsx_triggerRender", null)]

def firstValue (seeds : List Seed) (x : String) : Node :=
  match seeds.find? fun s => s.seeding == .record && s.name == x with
  | some seed => seed.value
  | none => undefined

def recordSlots (p : Promotion) (seeds : List Seed) : List (String × Node) :=
  (p.names.map fun x => (x, firstValue seeds x)) ++ internalSlots

def record (p : Promotion) (seeds : List Seed) : Node :=
  .generated .object ((recordSlots p seeds).map fun (x, v) => .propertyOf x v)

def creationSeeds (seeds : List Seed) : List Node :=
  (seeds.filter (·.seeding == .creation)).map fun s =>
    RecordAccess.viaRef.assignment .nowhere s.name s.value

def currentRef : Node := .memberOf (.value instanceRefName) "current"

-- `if (ref.current === null) { ref.current = { … }; … }`
def creation (p : Promotion) (seeds : List Seed) : Node :=
  let count := Node.generated (.binary .add) [.value "n", .natural 1]
  let trigger := Node.arrowTo [] (calls "__rsx_forceUpdate" [.arrowTo [.parameterOf "n"] count])
  .ifThen (.generated (.binary .strictEq) [currentRef, null])
    (.blockOf ([assign currentRef (record p seeds)] ++ creationSeeds seeds
      ++ [assign (RecordAccess.viaRef.slot "__rsx_triggerRender") trigger]))

def destroyEffect : Node :=
  let call := Node.statement (.callOf (slotOf "__rsx_destroyCb") [])
  let cleanup := Node.arrowOf [] false [.ifThen (slotOf "__rsx_destroyCb") call]
  .statement (calls "__rsx_useEffect" [.arrowTo [] cleanup, .generated .array []])

def renderFunction : Node :=
  let result := Node.callOf (slotOf "__rsx_viewCb") [slotOf "__rsx_currentProps"]
  .functionNamed "__rsx_render" (.parametersOf []) false false
    (.bodyOf [.ifThen (slotOf "__rsx_viewCb")
      (.blockOf [assign (slotOf "__rsx_viewResult") result])])

def registers (x slot : String) : Node :=
  .methodOf x [.parameterOf "fn"] [assign (slotOf slot) (.value "fn")]

def renders : Node := .statement (calls "__rsx_render" [])

def lifecycle : Node :=
  .constant (.boundName "__rsx_ctx") (.generated .object
    [registers "view" "__rsx_viewCb",
      registers "update" "__rsx_updateCb",
      registers "destroy" "__rsx_destroyCb",
      .methodOf "render" [] [renders, .statement (.callOf (slotOf "__rsx_triggerRender") [])],
      .getterOf "props" [.generated .returnWith [slotOf "__rsx_currentProps"]]])

def setupArguments (forwards : Bool) : List Node :=
  .generated .thisValue [] :: .value "__rsx_ctx" ::
    (if forwards then [.value "__rsx_ref", .generated .spread [.value "__rsx_rest"]] else [])

def firstRun (forwards : Bool) : Node :=
  .blockOf
    [assign (slotOf "__rsx_initialized") (boolean true),
      .statement (.callOf (.memberOf (.value setupName) "call") (setupArguments forwards)),
      renders]

def laterRun : Node :=
  let changed :=
    Node.generated (.binary .strictNe) [slotOf "__rsx_prevProps", slotOf "__rsx_currentProps"]
  let call := Node.statement
    (.callOf (slotOf "__rsx_updateCb") [slotOf "__rsx_prevProps", slotOf "__rsx_currentProps"])
  .ifThen changed (.blockOf [.ifThen (slotOf "__rsx_updateCb") (.blockOf [call]), renders])

def run (forwards : Bool) : Node :=
  .generated .ifElse
    [.generated (.unary .not) [slotOf "__rsx_initialized"], firstRun forwards, laterRun]

def parameters (forwards : Bool) : Node :=
  .parametersOf (.parameterOf "__rsx_props" ::
    (if forwards then [.parameterOf "__rsx_ref", .restParameterOf "__rsx_rest"] else []))

def body (p : Promotion) (seeds : List Seed) (forwards : Bool) (setup : Node) : Node :=
  let state := Node.generated .arrayPattern [.generated .hole [], .boundName "__rsx_forceUpdate"]
  .bodyOf
    [.constant state (calls "__rsx_useState" [.natural 0]),
      .constant (.boundName instanceRefName) (calls "__rsx_useRef" [null]),
      creation p seeds,
      .constant (.boundName instanceName) currentRef,
      destroyEffect,
      assign (slotOf "__rsx_prevProps") (slotOf "__rsx_currentProps"),
      assign (slotOf "__rsx_currentProps") (.value "__rsx_props"),
      renderFunction,
      lifecycle,
      setup,
      run forwards,
      .generated .returnWith [.generated (.logical .coalesce) [slotOf "__rsx_viewResult", null]]]

def hostImport (hostModule : String) : Node :=
  .importOf
    [.importAs "useRef" "__rsx_useRef",
      .importAs "useState" "__rsx_useState",
      .importAs "useEffect" "__rsx_useEffect"]
    hostModule

def forwards (parameters : Node) : Bool :=
  parameters.parts.length > 1 || parameters.parts.any fun p =>
    match p.kind with
    | .restParameter => true
    | _ => false

-- The user's function around the generated body, with its own parameters and body in the setup.
def rebuild (p : Promotion) (seeds : List Seed) (f : Node) (userBody : Node) : Node :=
  match f.kind with
  | .function info =>
    let forwarding := forwards (f.part 3)
    let setup := Node.functionNamed setupName (f.part 3) info.async info.generator userBody
    .mk (.function { info with async := false, generator := false }) f.span
      [f.part 0, f.part 1, f.part 2, parameters forwarding, f.part 4,
        body p seeds forwarding setup]
  | .arrow info =>
    let forwarding := forwards (f.part 1)
    let setup := Node.functionNamed setupName (f.part 1) info.async false userBody
    .mk (.arrow { info with async := false, expression := false }) f.span
      [f.part 0, parameters forwarding, f.part 2, body p seeds forwarding setup]
  | _ => f

end Instance

end Rsx
