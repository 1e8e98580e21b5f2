import AsmSymbols.Module

/-!
# Linking

Linking puts the definitions of all modules into one namespace.  An external label defines nothing,
so its symbol has to come from another module.  Two modules must not define one symbol, and every
symbol that a module uses must be defined by some module; the first problem is reported.
-/

set_option autoImplicit false

namespace AsmSymbols

structure GlobalDefinition where
  module : Text
  line : Nat
  offset : Nat
  deriving DecidableEq, Repr

abbrev Globals := Table Text GlobalDefinition

def Globals.get? (globals : Globals) (symbol : Text) : Option GlobalDefinition :=
  globals.find? (symbolKey symbol)

inductive LinkError where
  /-- A second module defines the symbol, which is spelled as there. -/
  | multiplyDefined (symbol first second : Text)
  /-- No module defines the symbol that is used here. -/
  | undefined (usage : Usage) (module : Text)
  deriving DecidableEq, Repr

def LinkError.message : LinkError → Text
  | .multiplyDefined symbol first second =>
    "symbol `" ++ symbol ++ "` is defined in both `" ++ first ++ "` and `" ++ second ++ "`"
  | .undefined usage module =>
    "undefined symbol `" ++ usage.symbol ++ "` used in `" ++ module ++ "` at "
      ++ placeText usage.line usage.offset

/-- A definition that other modules can use. -/
structure Export where
  symbol : Text
  definition : GlobalDefinition
  deriving DecidableEq, Repr

/-- The definitions that a module offers, in the order of its table. -/
def Module.exports (module : Module) : List Export :=
  (module.definitions.values.filter fun definition => !definition.external).map fun definition =>
    ⟨definition.symbol, ⟨module.name, definition.line, definition.offset⟩⟩

namespace Globals

/-- Add exports until one of them is taken. -/
def merge (globals : Globals) : List Export → Except LinkError Globals
  | [] => .ok globals
  | offered :: rest =>
    match globals.get? offered.symbol with
    | some held =>
      .error (.multiplyDefined offered.symbol held.module offered.definition.module)
    | none => merge (globals.insert (symbolKey offered.symbol) offered.definition) rest

/-- The first usage of the first symbol of a module that nobody defines.  The `fallback` decides
about a key that has no usage. -/
def missingOr? (fallback : Module → Text → Option LinkError) (globals : Globals)
    (module : Module) : Option LinkError :=
  module.usages.entries.findSome? fun (key, usages) =>
    if globals.contains key then none
    else (usages.head?.map fun usage => .undefined usage module.name).or (fallback module key)

/-- A key without usages misses nothing. -/
def missing? (globals : Globals) (module : Module) : Option LinkError :=
  globals.missingOr? (fun _ _ => none) module

end Globals

/-- Link scanned modules, with a `fallback` for keys without usages.  Clashes are found before
missing symbols. -/
def linkOr (fallback : Module → Text → Option LinkError) (modules : List Module) :
    Except LinkError Globals :=
  match Globals.merge {} (modules.flatMap Module.exports) with
  | .error problem => .error problem
  | .ok globals =>
    match modules.findSome? (globals.missingOr? fallback) with
    | some problem => .error problem
    | none => .ok globals

/-- Link scanned modules. -/
def link (modules : List Module) : Except LinkError Globals := linkOr (fun _ _ => none) modules

/-- Only a link that succeeds is told. -/
def linkLog (modules : List Module) : List Log.Record :=
  match link modules with
  | .error _ => []
  | .ok globals =>
    [⟨.debug, .link, "linked " ++ Text.decimal modules.length ++ " modules, "
      ++ Text.decimal globals.size ++ " symbols"⟩]

end AsmSymbols
