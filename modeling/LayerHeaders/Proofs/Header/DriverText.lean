import LayerHeaders.Proofs.Header.Configuration
import LayerHeaders.Proofs.Header.DriverInterface
import Mathlib.Data.List.Infix

/-!
# The text of a driver's interface

The header has a base interface for each handle, whose virtual methods have default bodies, then what
declares the functions of the commands, and at its end the resolvers, with an arm for each command. Here the
lines of these parts are spelled out for any methods and arms, and shown to be those of the header.

* `signatureText`: a declaration with one parameter a line.
* `VirtualMethod`, `Interface`, `interfacesText`: the lines of the base interfaces.
* `functionText`, `prototypeText`: the lines that declare the function of a command.
* `Arm`, `resolverText`: the lines of the resolvers.
* `exists_interfacesText`, `exists_resolverText`: where they are in the header.
-/

namespace LayerHeaders.DriverInterface

/-! ## Signatures -/

/-- The parameters of a declaration, one a line, up to its end. -/
def parameterText (guard? : Option String) (indent : ℕ) (tail : String) : List String → List PlacedLine
  | [] => []
  | [last] => [⟨guard?, indent, s!"{last}){tail}"⟩]
  | p :: ps => ⟨guard?, indent, s!"{p},"⟩ :: parameterText guard? indent tail ps

/-- The lines of a declaration between `head` and `tail`. -/
def signatureText (guard? : Option String) (indent : ℕ) (head : String) (params : List String)
    (tail : String) : List PlacedLine :=
  match params with
  | [] => [⟨guard?, indent, s!"{head}(){tail}"⟩]
  | p :: ps => ⟨guard?, indent, s!"{head}("⟩ :: parameterText guard? (indent + 1) tail (p :: ps)

section

variable {guard? : Option String} {indent : ℕ} {head tail : String}

/-- All parameters but the last end in a comma. -/
theorem parameterText_append (ps : List String) (last : String) :
    parameterText guard? indent tail (ps ++ [last]) =
      ps.map (fun p => ⟨guard?, indent, p ++ ","⟩) ++ [⟨guard?, indent, last ++ ")" ++ tail⟩] := by
  induction ps with
  | nil => rfl
  | cons p ps ih =>
      rw [List.cons_append, parameterText, ih, List.map_cons, List.cons_append]
      · rfl
      · exact fun h => absurd (congrArg List.length h) (by simp)

/-- The lines of a declaration, spelled out. -/
theorem linesUnder_signatureLines (params : List String) :
    linesUnder guard? (signatureLines indent head params tail) =
      signatureText guard? indent head params tail := by
  rcases params.eq_nil_or_concat with rfl | ⟨ps, last, rfl⟩
  · rfl
  · have hmap : (ps.map fun p => Instruction.line (indent + 1) (p ++ ",")).filterMap
        (·.placed? guard?) = ps.map fun p => ⟨guard?, indent + 1, p ++ ","⟩ := by
      rw [List.filterMap_map]
      exact congrFun List.filterMap_eq_map' ps
    have hlines : linesUnder guard? (signatureLines indent head (ps ++ [last]) tail) =
        ⟨guard?, indent, head ++ "("⟩ :: parameterText guard? (indent + 1) tail (ps ++ [last]) := by
      rw [parameterText_append, ← hmap, signatureLines, List.getLast?_concat, List.dropLast_concat]
      simp [linesUnder, Instruction.placed?]
    rw [List.concat_eq_append, hlines]
    rcases hps : ps ++ [last] with _ | ⟨p, rest⟩
    · simp at hps
    · rfl

end

/-! ## Base interfaces -/

/-- What a default body does. -/
inductive DefaultBody where
  /-- It calls a method with these arguments, and returns what that returns. -/
  | forward (target : String) (arguments : List String)
  /-- It returns a default value. -/
  | value
  /-- It does nothing. -/
  | nothing
deriving DecidableEq, Repr

/-- The text of a default body. -/
def DefaultBody.text : DefaultBody → String
  | forward target arguments =>
    let listed := ", ".intercalate arguments
    s!"\x7b return {target}({listed}); \x7d"
  | value => "\x7b return \x7b\x7d; \x7d"
  | nothing => "\x7b \x7d"

/-- A virtual method. -/
structure VirtualMethod where
  /-- The token of its guard, unless it is outside every guard. -/
  guard? : Option String
  /-- The type of the result. -/
  result : String
  /-- The name. -/
  name : String
  /-- The parameters. -/
  params : List Param
  /-- The default body. -/
  body : DefaultBody
deriving DecidableEq, Repr

/-- **The lines of a virtual method**: its declaration and its default body. -/
def VirtualMethod.text (m : VirtualMethod) : List PlacedLine :=
  signatureText m.guard? 1 s!"virtual {m.result} {m.name}" (m.params.map (·.declaration)) "" ++
    [⟨m.guard?, 1, m.body.text⟩]

/-- A base interface. -/
structure Interface where
  /-- The handle that it is for. -/
  handle : String
  /-- The virtual methods. -/
  methods : List VirtualMethod
deriving DecidableEq, Repr

/-- **The lines of a base interface**: its methods, in a structure that is called like the handle. -/
def Interface.text (d : Dialect) (i : Interface) : List PlacedLine :=
  [⟨none, 0, s!"struct {d.typeStem i.handle}Base"⟩, ⟨none, 0, "\x7b"⟩] ++ i.methods.flatMap (·.text) ++
    [⟨none, 0, "\x7d;"⟩]

/-- **The lines of all base interfaces**, in their namespace. -/
def interfacesText (d : Dialect) (interfaces : List Interface) : List PlacedLine :=
  [⟨none, 0, s!"namespace {d.driverNamespace}"⟩,
      ⟨none, 0, "\x7b"⟩,
      ⟨none, 0, "struct VkObjectBase \x7b"⟩,
      ⟨none, 1, "uintptr_t m_LoaderMagic = ICD_LOADER_MAGIC;"⟩,
      ⟨none, 0, "\x7d;"⟩] ++
    interfaces.flatMap (·.text d) ++ [⟨none, 0, "\x7d"⟩]

/-- What the default body of the method of a command does. -/
def body (r : Registry) (c : Resolved) : DefaultBody :=
  match r.forwardTarget? c with
  | some target => .forward target ((c.params.drop 1).map (·.name))
  | none => if c.result ≠ "void" then .value else .nothing

/-- The method of a command. The handle is no parameter of it. -/
def method (r : Registry) (c : Resolved) : VirtualMethod :=
  ⟨r.commandGuard? c.name, c.result, c.name, c.params.drop 1, body r c⟩

/-- The base interface of a handle, with the methods of its commands but the resolvers. -/
def interface? (r : Registry) (g : HandleGroup) : Option Interface :=
  g.handle?.map fun handle =>
    ⟨handle, ((g.withoutResolvers r.dialect).flatMap (·.items)).map (method r)⟩

/-! ## Functions -/

/-- An arm of the resolver. -/
structure Arm where
  /-- The token of the guard, unless the command is core. -/
  guard? : Option String
  /-- The name of the command. -/
  command : String
deriving DecidableEq, Repr

/-- **The line of an arm**: the command of a name is answered with its address. -/
def Arm.text (a : Arm) : PlacedLine :=
  ⟨a.guard?, 1, s!"if( !strcmp( \"{a.command}\", name ) ) return reinterpret_cast<PFN_vkVoidFunction>(&{a.command});"⟩

/-- The lines of the resolvers before the arms. They declare both of them. -/
def resolverOpening (d : Dialect) : List PlacedLine :=
  [⟨none, 0, s!"inline PFN_vkVoidFunction {d.deviceResolver}(VkDevice device, const char* name);"⟩,
    ⟨none, 0, s!"inline PFN_vkVoidFunction {d.instanceResolver}(VkInstance instance, const char* name)"⟩,
    ⟨none, 0, "\x7b"⟩]

/-- **The lines of the resolvers** with these arms. -/
def resolverText (d : Dialect) (arms : List Arm) : List PlacedLine :=
  resolverOpening d ++ arms.map (·.text) ++
    [⟨none, 1, "return nullptr;"⟩,
      ⟨none, 0, "\x7d"⟩,
      ⟨none, 0, s!"inline PFN_vkVoidFunction {d.deviceResolver}(VkDevice device, const char* name)"⟩,
      ⟨none, 0, "\x7b"⟩,
      ⟨none, 1, s!"return {d.instanceResolver}( nullptr, name );"⟩,
      ⟨none, 0, "\x7d"⟩]

/-- The arm of a command. -/
def arm (r : Registry) (c : Resolved) : Arm :=
  ⟨r.commandGuard? c.name, c.name⟩

/-! ## Lines of one command -/

variable {r : Registry} {c : Resolved} {g : HandleGroup} {gs : List HandleGroup} {guard? : Option String}

/-- The text of a default body says what it does. -/
theorem text_body (r : Registry) (c : Resolved) : (body r c).text = defaultBody r c := by
  unfold body defaultBody
  rcases r.forwardTarget? c with _ | target
  · show (if c.result ≠ "void" then DefaultBody.value else DefaultBody.nothing).text =
      if c.result ≠ "void" then _ else _
    split_ifs
    · rfl
    · rfl
  · rfl

theorem linesUnder_methodLines (r : Registry) (c : Resolved) :
    linesUnder (r.commandGuard? c.name) (methodLines r c) = (method r c).text := by
  rw [methodLines, ← text_body, linesUnder, List.filterMap_append, ← linesUnder,
    linesUnder_signatureLines]
  rfl

/-- The lines of a base interface, spelled out. -/
theorem placedLines_interfacePassages (r : Registry) (g : HandleGroup) :
    r.placedLines (interfacePassages r g) = (interface? r g).toList.flatMap (·.text r.dialect) := by
  unfold interfacePassages interface?
  rcases g.handle? with _ | handle
  · rfl
  · have hmethods : ∀ cs : List Resolved, (cs.flatMap fun c =>
        linesUnder (r.commandGuard? c.name) (methodLines r c)) = (cs.map (method r)).flatMap (·.text) := by
      intro cs
      rw [List.flatMap_map]
      exact List.flatMap_congr fun c _ => linesUnder_methodLines r c
    simp only [Registry.placedLines_append, Registry.placedLines_scaffold, Registry.placedLines_passages,
      Option.map_some, Option.toList_some, List.flatMap_singleton, Interface.text]
    rw [← hmethods]
    rfl

/-- **The base interfaces are in the header.** -/
theorem exists_interfacesText {header : Header} (hh : DriverInterface.header r = .ok header) :
    ∃ gs lines, groups r = .ok gs ∧ walk none header.body = some lines ∧
      interfacesText r.dialect (gs.filterMap (interface? r)) <:+: lines := by
  obtain ⟨ps, hps, hshows⟩ := shows_of_header hh
  obtain ⟨gs, hgs, hreturn⟩ := bind_eq_ok_iff.1 hps
  cases hreturn
  refine ⟨gs, _, mapError_eq_ok_iff.1 hgs, hshows, ?_⟩
  have hinterfaces : r.placedLines (gs.flatMap (interfacePassages r)) =
      (gs.filterMap (interface? r)).flatMap (·.text r.dialect) := by
    rw [Registry.placedLines, List.flatMap_assoc, List.filterMap_eq_flatMap_toList, List.flatMap_assoc]
    exact List.flatMap_congr fun g _ => placedLines_interfacePassages r g
  have hnamespace : interfacesText r.dialect (gs.filterMap (interface? r)) =
      r.placedLines ([scaffold (namespaceOpening r.dialect) (guardFree_namespaceOpening _)] ++
        gs.flatMap (interfacePassages r) ++ [scaffold namespaceClosing guardFree_namespaceClosing]) := by
    rw [Registry.placedLines_append, Registry.placedLines_append, hinterfaces,
      Registry.placedLines_scaffold, Registry.placedLines_scaffold]
    rfl
  have hstart := (List.suffix_append [scaffold prologue guardFree_prologue]
    ([scaffold (namespaceOpening r.dialect) (guardFree_namespaceOpening _)] ++
      gs.flatMap (interfacePassages r) ++
      [scaffold namespaceClosing guardFree_namespaceClosing])).isInfix
  rw [hnamespace]
  -- the wrappers, the functions and the resolvers follow
  exact List.IsInfix.flatMap (hstart.trans ((List.prefix_append _ _).isInfix.trans
    ((List.prefix_append _ _).isInfix.trans (List.prefix_append _ _).isInfix))) _

/-- The passages of the resolvers. -/
def resolverPassages (d : Dialect) (gs : List HandleGroup) : List Passage :=
  [scaffold (resolversOpening d) (guardFree_resolversOpening _)] ++
    gs.flatMap (fun g => arms.passages g.byOwner) ++
    [scaffold (resolversClosing d) (guardFree_resolversClosing _)]

/-- The lines of the resolvers, spelled out. -/
theorem placedLines_resolverPassages :
    r.placedLines (resolverPassages r.dialect gs) =
      resolverText r.dialect ((gs.flatMap (·.commands)).map (arm r)) := by
  have harms : r.placedLines (gs.flatMap fun g => arms.passages g.byOwner) =
      ((gs.flatMap (·.commands)).map (arm r)).map (·.text) := by
    rw [Registry.placedLines, List.flatMap_assoc, List.map_map, List.map_flatMap]
    refine List.flatMap_congr fun g _ => ?_
    have hpassages := Registry.placedLines_passages (r := r) arms g.byOwner
    rw [Registry.placedLines] at hpassages
    rw [hpassages, HandleGroup.commands, List.map_eq_flatMap]
    rfl
  rw [resolverPassages, Registry.placedLines_append, Registry.placedLines_append, harms,
    Registry.placedLines_scaffold, Registry.placedLines_scaffold]
  rfl

/-- **The resolvers are at the end of the header.** -/
theorem exists_resolverText {header : Header} (hh : DriverInterface.header r = .ok header) :
    ∃ gs declared, groups r = .ok gs ∧ passages r = .ok (declared ++ resolverPassages r.dialect gs) ∧
      walk none header.body = some (r.placedLines declared ++
        resolverText r.dialect ((gs.flatMap (·.commands)).map (arm r))) := by
  obtain ⟨ps, hps, hshows⟩ := shows_of_header hh
  have ⟨gs, hgs, hreturn⟩ := bind_eq_ok_iff.1 hps
  obtain rfl := Except.ok.inj hreturn
  refine ⟨gs, _, mapError_eq_ok_iff.1 hgs, hps, hshows.trans ?_⟩
  rw [← placedLines_resolverPassages, ← Registry.placedLines_append]
  rfl

end LayerHeaders.DriverInterface
