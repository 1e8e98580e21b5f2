import AsmSymbols.Log
import AsmSymbols.Pattern.Meaning
import AsmSymbols.Table

/-!
# Log filters

A filter chooses the records that a user sees.  It is written as directives with commas between
them, each a level for all sources, a scope, or a scope and a level joined by `=`; behind a slash a
pattern may follow that has to occur in the message.  A piece that cannot be read is passed over
with a warning.
-/

set_option autoImplicit false

namespace AsmSymbols.Log

/-- The most verbose level shown, if any is. -/
abbrev Threshold := Option Level

/-- The sources a directive covers: all, or those whose name starts with a text. -/
abbrev Scope := Option Text

structure Filter where
  thresholds : Table Scope Threshold
  pattern : Option Pattern := none

namespace Filter

/-- What was passed over in reading a filter. -/
inductive Warning where
  | directive (text : Text)
  | slashes (text : Text)
  | pattern (text : Text) (error : PatternError)
  deriving DecidableEq, Repr

def Warning.message : Warning → Text
  | .directive text => "warning: invalid logging spec '" ++ text ++ "', ignoring it"
  | .slashes text =>
    "warning: invalid logging spec '" ++ text ++ "', ignoring it (too many '/'s)"
  | .pattern text error => "warning: invalid regex filter - " ++ error.message text

/-- Of the directives that cover a source the one with the longest scope decides, and of those that
are equally long the last. -/
def thresholdFor (filter : Filter) (source : Text) : Threshold :=
  let length (scope : Scope) := (scope.getD []).length
  let covering := filter.thresholds.entries.filter fun (scope, _) =>
    (scope.getD []).isPrefixOf source
  let deciding := covering.foldl (fun best entry =>
    match best with
    | none => some entry
    | some held => if length held.1 ≤ length entry.1 then some entry else some held) none
  deciding.bind Prod.snd

def shows (filter : Filter) (record : Record) : Bool :=
  (filter.thresholdFor record.source.name).any (record.level.verbosity ≤ ·.verbosity)
    && filter.pattern.all (·.occursIn record.message)

/-- One level for all sources. -/
def upTo (level : Level) : Filter := ⟨({} : Table Scope Threshold).insert none (some level), none⟩

/-- Warnings and errors. -/
def standard : Filter := upTo .warn

/-- A level or `off`. -/
def threshold? (word : Text) : Option Threshold :=
  if Text.upper word == ("OFF" : Text) then some none else (Level.ofWord? word).map some

/-- A scope without a level shows everything. -/
def readDirective (text : Text) : Except Warning (Scope × Threshold) :=
  match Text.fields '=' text with
  | [word] =>
    match threshold? word with
    | some threshold => .ok (none, threshold)
    | none => .ok (some word, some .trace)
  | [scope, written] =>
    let word := Text.trim written
    if word.isEmpty then .ok (some scope, some .trace)
    else
      match threshold? word with
      | some threshold => .ok (some scope, threshold)
      | none => .error (.directive word)
  | _ => .error (.directive text)

/-- Read directives one by one.  A later directive for a scope replaces the earlier. -/
def readDirectives (held : Table Scope Threshold) :
    List Text → Table Scope Threshold × List Warning
  | [] => (held, [])
  | text :: rest =>
    match readDirective text with
    | .ok (scope, threshold) => readDirectives (held.insert scope threshold) rest
    | .error warning =>
      let (thresholds, warnings) := readDirectives held rest
      (thresholds, warning :: warnings)

def readPattern : List Text → Option Pattern × List Warning
  | [] => (none, [])
  | text :: _ =>
    match Pattern.ofText text with
    | .ok pattern => (some pattern, [])
    | .error error => (none, [.pattern text error])

/-- Read a filter.  With no directive only errors are shown. -/
def ofText (text : Text) : Filter × List Warning :=
  match Text.fields '/' text with
  | _ :: _ :: _ :: _ => (upTo .error, [.slashes text])
  | [] => (upTo .error, [])
  | directives :: behind =>
    let words := ((Text.fields ',' directives).map Text.trim).filter fun word => !word.isEmpty
    let (thresholds, warnings) := readDirectives {} words
    let (pattern, further) := readPattern behind
    let filter : Filter :=
      if thresholds.entries.isEmpty then { upTo .error with pattern } else ⟨thresholds, pattern⟩
    (filter, warnings ++ further)

/-- The filter that a user asks for, or else the standard one. -/
def ofWish : Option Text → Filter × List Warning
  | none => (standard, [])
  | some text => ofText text

end Filter

end AsmSymbols.Log
