import RouteDoc.Document.Model
import RouteDoc.Document.Print
import RouteDoc.Path
import RouteDoc.Text.Search

/-!
The arguments of the command. Arguments are read from left to right. An option waits for its value
until the next option, the next project or the end comes, and only then is the value looked at; so
an unknown argument is noticed before a wrong value in front of it. Behind a double dash nothing is an
option.
-/

namespace RouteDoc.Command

open RouteDoc.Text

/-- What is wrong with the arguments, or asked for in place of a run. -/
inductive UsageProblem where
  | unknownArgument
  /-- A value is missing, empty where it must not be, or not one of those allowed. -/
  | invalidValue
  /-- An argument that may be given once is given again. -/
  | argumentConflict
  /-- A flag is given a value. -/
  | tooManyValues
  | missingRequiredArgument
  | displayHelp
  | displayVersion
  deriving Repr, DecidableEq

/-- What takes a value: the options, and the project, which has no name. -/
inductive Slot where
  | project
  | manifest
  | format
  | output
  | title
  | apiVersion
  | host
  | basePath
  | schemes
  | uiIndex
  deriving Repr, DecidableEq

/-- What takes none. -/
inductive Flag where
  | keepVersionTags
  | verbose
  | help
  | version
  deriving Repr, DecidableEq

/-- An option or a flag. -/
inductive Switch where
  | option (slot : Slot)
  | flag (flag : Flag)
  deriving Repr, DecidableEq

def longSwitch? (name : String) : Option Switch :=
  match name with
  | "manifest" => some (.option .manifest)
  | "format" => some (.option .format)
  | "output" => some (.option .output)
  | "title" => some (.option .title)
  | "api-version" => some (.option .apiVersion)
  | "host" => some (.option .host)
  | "base-path" => some (.option .basePath)
  | "schemes" => some (.option .schemes)
  | "ui-index" => some (.option .uiIndex)
  | "keep-version-tags" => some (.flag .keepVersionTags)
  | "verbose" => some (.flag .verbose)
  | "help" => some (.flag .help)
  | "version" => some (.flag .version)
  | _ => none

def shortSwitch? (letter : Char) : Option Switch :=
  match letter with
  | 'm' => some (.option .manifest)
  | 'f' => some (.option .format)
  | 'o' => some (.option .output)
  | 'b' => some (.option .basePath)
  | 'v' => some (.flag .verbose)
  | 'h' => some (.flag .help)
  | 'V' => some (.flag .version)
  | _ => none

/-- The values and flags that have been taken. -/
structure Given where
  project? : Option Path := none
  manifest? : Option Path := none
  format? : Option Format := none
  output? : Option Path := none
  title? : Option String := none
  apiVersion? : Option String := none
  host? : Option String := none
  basePath? : Option String := none
  schemes? : Option (List String) := none
  uiIndex? : Option Path := none
  keepVersionTags : Bool := false
  verbose : Bool := false
  deriving Repr, DecidableEq

namespace Given

/-- Sets what may be set once. -/
def once {α : Type} (old : Option α) (new : Except UsageProblem α) :
    Except UsageProblem (Option α) :=
  if old.isSome then .error .argumentConflict else new.map some

/-- A path, which must not be empty. -/
def pathValue (text : String) : Except UsageProblem Path :=
  if text.isEmpty then .error .invalidValue else .ok (Path.ofString text)

def formatValue (text : String) : Except UsageProblem Format :=
  match text with
  | "yaml" => .ok .yaml
  | "json" => .ok .json
  | _ => .error .invalidValue

/-- The parts of a value between commas. -/
def listValue (text : String) : List String :=
  (split ',' text.toList).map String.ofList

/-- Takes a value. Schemes add up; anything else is given once. -/
def take (given : Given) (slot : Slot) (text : String) : Except UsageProblem Given :=
  match slot with
  | .project => do return { given with project? := ← once given.project? (pathValue text) }
  | .manifest => do return { given with manifest? := ← once given.manifest? (pathValue text) }
  | .format => do return { given with format? := ← once given.format? (formatValue text) }
  | .output => do return { given with output? := ← once given.output? (pathValue text) }
  | .title => do return { given with title? := ← once given.title? (.ok text) }
  | .apiVersion => do return { given with apiVersion? := ← once given.apiVersion? (.ok text) }
  | .host => do return { given with host? := ← once given.host? (.ok text) }
  | .basePath => do return { given with basePath? := ← once given.basePath? (.ok text) }
  | .schemes => .ok { given with schemes? := some (given.schemes?.getD [] ++ listValue text) }
  | .uiIndex => do return { given with uiIndex? := ← once given.uiIndex? (pathValue text) }

/-- Raises a flag, once. -/
def raise (given : Given) (flag : Flag) : Except UsageProblem Given :=
  match flag with
  | .keepVersionTags =>
    if given.keepVersionTags then .error .argumentConflict
    else .ok { given with keepVersionTags := true }
  | .verbose =>
    if given.verbose then .error .argumentConflict else .ok { given with verbose := true }
  | .help => .error .displayHelp
  | .version => .error .displayVersion

end Given

/-- How far the reading has come. -/
structure Progress where
  given : Given := {}
  /-- What waits to be taken, and its value if that has been seen. -/
  waiting? : Option (Slot × Option String) := none
  /-- Whether a double dash has been passed. -/
  plain : Bool := false
  /-- Whether a project has been seen. -/
  placed : Bool := false
  deriving Repr, DecidableEq

namespace Progress

/-- Takes what waits. -/
def settle (p : Progress) : Except UsageProblem Progress :=
  match p.waiting? with
  | none => .ok p
  | some (_, none) => .error .invalidValue
  | some (slot, some text) => do
    return { p with given := ← p.given.take slot text, waiting? := none }

/-- Takes what waits, then a value at once. -/
def takeNow (p : Progress) (slot : Slot) (text : String) : Except UsageProblem Progress := do
  let p ← p.settle
  return { p with given := ← p.given.take slot text }

/-- Takes what waits, and lets an option wait for its value. -/
def expect (p : Progress) (slot : Slot) : Except UsageProblem Progress := do
  let p ← p.settle
  return { p with waiting? := some (slot, none) }

/-- Takes what waits, then raises a flag. -/
def raise (p : Progress) (flag : Flag) : Except UsageProblem Progress := do
  let p ← p.settle
  return { p with given := ← p.given.raise flag }

/-- Reads a long name, with the value behind its equals sign. -/
def readLong (p : Progress) (name : List Char) (value? : Option (List Char)) :
    Except UsageProblem Progress :=
  match longSwitch? (String.ofList name), value? with
  | none, _ => .error .unknownArgument
  | some (.option slot), some value => p.takeNow slot (String.ofList value)
  | some (.option slot), none => p.expect slot
  | some (.flag _), some _ => .error .tooManyValues
  | some (.flag flag), none => p.raise flag

/-- A value that stands directly behind an option's letter; an equals sign may divide the two. -/
def attached : List Char → List Char
  | '=' :: value => value
  | value => value

/-- Reads letters behind a single dash: flags, up to an option that takes the rest as its value. -/
def readShort (p : Progress) : List Char → Except UsageProblem Progress
  | [] => .ok p
  | letter :: rest =>
    match shortSwitch? letter with
    | none => .error .unknownArgument
    | some (.flag flag) =>
      match p.raise flag with
      | .ok p => readShort p rest
      | .error problem => .error problem
    | some (.option slot) =>
      if rest.isEmpty then p.expect slot else p.takeNow slot (String.ofList (attached rest))

/-- Reads an argument that is no option: the project, of which there is one. -/
def place (p : Progress) (text : String) : Except UsageProblem Progress :=
  if p.placed then .error .unknownArgument
  else do
    let p ← p.settle
    return { p with waiting? := some (.project, some text), placed := true }

/-- Reads an argument that is a value: that of the option that waits for one, or else the project. -/
def readValue (p : Progress) (text : String) : Except UsageProblem Progress :=
  match p.waiting? with
  | some (slot, none) => .ok { p with waiting? := some (slot, some text) }
  | _ => p.place text

/-- Reads one argument. A single dash alone is a value. -/
def readArg (p : Progress) (arg : String) : Except UsageProblem Progress :=
  if p.plain then p.place arg
  else match arg.toList with
    | ['-', '-'] => .ok { p with plain := true }
    | '-' :: '-' :: long =>
      match cut? '=' long with
      | some (name, value) => p.readLong name (some value)
      | none => p.readLong long none
    | '-' :: letter :: letters => p.readShort (letter :: letters)
    | _ => p.readValue arg

end Progress

structure Args where
  project : Path
  manifest? : Option Path := none
  format : Format := .json
  output? : Option Path := none
  /-- What the document says about the API as a whole. -/
  config : DocumentConfig := {}
  uiIndex? : Option Path := none
  verbose : Bool := false
  deriving Repr, DecidableEq

/-- The document's settings, with their defaults where nothing is given. -/
def Given.config (given : Given) : DocumentConfig :=
  let default : DocumentConfig := {}
  { title := given.title?.getD default.title
    version := given.apiVersion?.getD default.version
    host := given.host?.getD default.host
    basePath := given.basePath?.getD default.basePath
    schemes := given.schemes?.getD default.schemes
    skipVersions := !given.keepVersionTags }

/-- The arguments of a run, if nothing is missing: a project is needed, and an index page needs an
output. -/
def Given.args (given : Given) : Except UsageProblem Args :=
  match given.project? with
  | none => .error .missingRequiredArgument
  | some project =>
    if given.uiIndex?.isSome && given.output?.isNone then .error .missingRequiredArgument
    else .ok
      { project := project
        manifest? := given.manifest?
        format := given.format?.getD .json
        output? := given.output?
        config := given.config
        uiIndex? := given.uiIndex?
        verbose := given.verbose }

def parse (args : List String) : Except UsageProblem Args := do
  let p ← args.foldlM Progress.readArg {}
  let p ← p.settle
  p.given.args

end RouteDoc.Command
