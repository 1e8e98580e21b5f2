import AsmSymbols.Json
import AsmSymbols.Link

/-!
# Reports

The symbol tables of a job, as plain text or as a JSON document.  The linked symbols come last and
only if there are any tables of them: a job that was not linked has none.
-/

set_option autoImplicit false

namespace AsmSymbols

namespace Definition

def render (definition : Definition) : Text :=
  definition.symbol ++ " " ++ placeText definition.line definition.offset
    ++ (if definition.external then " extern" else "") ++ "\n"

def json (definition : Definition) : Json :=
  .object [("symbol", .string definition.symbol), ("line", .number definition.line),
    ("offset", .number definition.offset), ("external", .bool definition.external)]

end Definition

namespace Usage

def place (usage : Usage) : Text := placeText usage.line usage.offset

def json (usage : Usage) : Json :=
  .object [("symbol", .string usage.symbol), ("line", .number usage.line),
    ("offset", .number usage.offset)]

end Usage

namespace DefinitionTable

def render (table : DefinitionTable) : Text := table.values.flatMap Definition.render

def json (table : DefinitionTable) : Json :=
  .object (table.entries.map fun (key, definition) => (key, definition.json))

end DefinitionTable

namespace UsageTable

/-- One line a symbol, spelled as where it is first used.  The `fallback` names a key that has no
usage. -/
def renderOr (fallback : Text → Text) (table : UsageTable) : Text :=
  table.entries.flatMap fun (key, usages) =>
    (usages.head?.map Usage.symbol).getD (fallback key)
      ++ usages.flatMap (fun usage => ' ' :: usage.place) ++ "\n"

/-- A key without usages stands for itself. -/
def render (table : UsageTable) : Text := table.renderOr id

def json (table : UsageTable) : Json :=
  .object (table.entries.map fun (key, usages) => (key, .array (usages.map Usage.json)))

end UsageTable

namespace Module

def render (module : Module) : Text :=
  module.name ++ "\nusage table\n" ++ module.usages.render
    ++ "definition table\n" ++ module.definitions.render

def json (module : Module) : Json :=
  .object [("name", .string module.name), ("definitions", module.definitions.json),
    ("usages", module.usages.json)]

end Module

namespace GlobalDefinition

def renderUnder (key : Text) (definition : GlobalDefinition) : Text :=
  key ++ " " ++ definition.module ++ " " ++ placeText definition.line definition.offset ++ "\n"

def json (definition : GlobalDefinition) : Json :=
  .object [("module", .string definition.module), ("line", .number definition.line),
    ("offset", .number definition.offset)]

end GlobalDefinition

namespace Globals

def render (globals : Globals) : Text :=
  ("global symbols\n" : Text) ++
    globals.entries.flatMap fun (key, definition) => definition.renderUnder key

def json (globals : Globals) : Json :=
  .object (globals.entries.map fun (key, definition) => (key, definition.json))

end Globals

namespace Report

def text (modules : List Module) (globals : Option Globals) : Text :=
  modules.flatMap Module.render ++ (globals.map Globals.render).getD []

def document (modules : List Module) (globals : Option Globals) : Json :=
  let scanned := Json.array (modules.map Module.json)
  match globals with
  | none => .object [("modules", scanned)]
  | some table => .object [("modules", scanned), ("globals", table.json)]

def json (modules : List Module) (globals : Option Globals) : Text :=
  (document modules globals).pretty

end Report

end AsmSymbols
