import JsonRpc.Log.Directive

set_option autoImplicit false

/- Filters: which records are shown, and in which spans. A filter is a list of directives between
commas. A directive that names a span or a field widens what is shown inside the spans it is about;
the other directives decide by target, whatever the spans. -/

namespace JsonRpc.Log

structure Filter where
  directives : List Directive
deriving DecidableEq

-- The spans that are kept around a record, the outermost first, and how verbose records may be inside
-- them whatever their target.
structure Scope where
  kept : List Span
  verbosity : Nat
deriving DecidableEq

namespace Directive

def isAboutTarget (directive : Directive) (target : String) : Bool :=
  match directive.target with
  | none => true
  | some name => name.toList.isPrefixOf target.toList

def namesFieldsIn (directive : Directive) (names : List String) : Bool :=
  directive.fields.all fun field => names.contains field.name

def testsValue (directive : Directive) : Bool := directive.fields.any fun field => field.value.isSome

def isGeneral (directive : Directive) : Bool := directive.span.isNone && !directive.testsValue

def isScoped (directive : Directive) : Bool := directive.span.isSome || !directive.fields.isEmpty

def replaces (later earlier : Directive) : Bool :=
  decide ({ earlier with threshold := later.threshold } = later)

-- The longer its target, and then the more its fields, the more a directive counts.
def weight (directive : Directive) : Nat × Nat :=
  match directive.target with
  | none => (0, directive.fields.length)
  | some name => (name.utf8ByteSize + 1, directive.fields.length)

def isLighter (light heavy : Directive) : Bool :=
  let (lightTarget, lightFields) := light.weight
  let (heavyTarget, heavyFields) := heavy.weight
  lightTarget < heavyTarget || lightTarget == heavyTarget && (lightFields < heavyFields ||
    lightFields == heavyFields && decide (light.fields.map (·.name) < heavy.fields.map (·.name)))

def isAboutRecord (directive : Directive) (record : Record) : Bool :=
  directive.isAboutTarget record.target && directive.namesFieldsIn record.fieldNames

def isAboutSpan (directive : Directive) (span : Span) : Bool :=
  directive.isAboutTarget span.target && directive.namesFieldsIn span.fieldNames &&
    (directive.span.isNone || directive.span == some span.name)

end Directive

def FieldTest.holds (test : FieldTest) (span : Span) : Bool :=
  match test.value with
  | none => true
  | some (.number value) => span.fields.contains ⟨test.name, toString value⟩
  | some (.other _) => false

namespace Filter

def errorsOnly : Filter := ⟨[⟨none, none, [], .upTo .error⟩]⟩

def ofText (text : String) : Except DirectiveFault Filter := do
  let parts := (text.splitOn ",").filter fun part => !part.isEmpty
  let directives ← parts.mapM Directive.ofText
  pure (if directives.isEmpty then errorsOnly else ⟨directives⟩)

-- A later directive replaces an earlier one that differs in nothing but its threshold.
def current : List Directive → List Directive
  | [] => []
  | directive :: rest =>
      if rest.any fun later => later.replaces directive then current rest else directive :: current rest

def heavier (best : Option Directive) (directive : Directive) : Option Directive :=
  match best with
  | none => some directive
  | some other => if other.isLighter directive then some directive else best

def shows (filter : Filter) (level : Level) (isAbout : Directive → Bool) : Bool :=
  let general := (current filter.directives).filter Directive.isGeneral
  match (general.filter isAbout).foldl heavier none with
  | some directive => directive.threshold.shows level
  | none => false

-- No span that is more verbose is kept. A test of a value lets every span pass.
def ceiling (filter : Filter) : Nat :=
  if filter.directives.any Directive.testsValue then Level.trace.verbosity
  else filter.directives.foldl (fun most directive => max most directive.threshold.verbosity) 0

def scoped? (filter : Filter) (span : Span) : Option Nat :=
  let inside := (current filter.directives).filter Directive.isScoped
  let about := inside.filter fun directive => directive.isAboutSpan span
  let holding := about.filter fun directive => directive.fields.all fun test => test.holds span
  if about.isEmpty then none
  else some (holding.foldl (fun most directive => max most directive.threshold.verbosity) 0)

def enter (filter : Filter) (scope : Scope) (span : Span) : Scope :=
  let within := { scope with kept := scope.kept ++ [span] }
  if filter.ceiling < span.level.verbosity then scope
  else
    match filter.scoped? span with
    | some verbosity => { within with verbosity := max scope.verbosity verbosity }
    | none =>
        let shown := filter.shows span.level (·.isAboutTarget span.target)
        if shown || span.level.verbosity ≤ scope.verbosity then within else scope

def scope (filter : Filter) (spans : List Span) : Scope := spans.foldl filter.enter ⟨[], 0⟩

def showsRecord (filter : Filter) (scope : Scope) (record : Record) : Bool :=
  record.level.verbosity ≤ scope.verbosity || filter.shows record.level (·.isAboutRecord record)

end Filter

end JsonRpc.Log
