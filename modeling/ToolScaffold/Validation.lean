import ToolScaffold.Server.Function
import ToolScaffold.Text.Blank
import ToolScaffold.Url

/-!
# Validation

What can be wrong with a project that has been read. A *problem* makes the generated server unusable;
a *warning* is worth telling and leaves a server that works. The report lists names that are used
twice, then names of tools that give the same function, then what is wrong with each tool by itself.
-/

namespace ToolScaffold

/-- What makes the generated server unusable. -/
inductive Problem where
  | repeatedName (tool : String)
  | sharedFunction (identifier : String) (tools : List String)
  | blankName
  | badFunctionName (tool identifier : String)
  | reservedFunctionName (tool identifier : String)
  | badParameter (tool parameter : String)
  | reservedParameter (tool parameter : String)
  | missingEndpoint (tool : String)
  deriving DecidableEq, Repr

/-- What is worth telling about a project. -/
inductive Warning where
  | undeclaredParameter (tool parameter : String)
  | notAWebAddress (tool : String)
  | unboundPlaceholder (tool placeholder : String)
  deriving DecidableEq, Repr

/-- A name between single quotes. -/
def quotedName (s : String) : String := "'" ++ s ++ "'"

namespace Problem

def message : Problem → String
  | repeatedName tool => "Duplicate tool name: " ++ tool
  | sharedFunction identifier tools =>
    "Tools " ++ ", ".intercalate (tools.map quotedName) ++ " all generate the function name " ++
      quotedName identifier
  | blankName => "Tool name is required"
  | badFunctionName tool identifier =>
    quotedName tool ++ ": Invalid Python function name " ++ quotedName identifier
  | reservedFunctionName tool identifier =>
    quotedName tool ++ ": Function name " ++ quotedName identifier ++
      " is reserved by the generated server"
  | badParameter tool parameter =>
    quotedName tool ++ ": Invalid parameter name " ++ quotedName parameter
  | reservedParameter tool parameter =>
    quotedName tool ++ ": Parameter name " ++ quotedName parameter ++
      " is reserved by the generated server"
  | missingEndpoint tool => quotedName tool ++ ": Missing API endpoint"

end Problem

namespace Warning

def message : Warning → String
  | undeclaredParameter tool parameter =>
    quotedName tool ++ ": Required parameter " ++ quotedName parameter ++
      " is not declared in properties"
  | notAWebAddress tool =>
    quotedName tool ++ ": API endpoint should start with http:// or https://"
  | unboundPlaceholder tool placeholder =>
    quotedName tool ++ ": Placeholder " ++ quotedName ("\x7b" ++ placeholder ++ "\x7d") ++
      " does not match any parameter and will be sent as is"

end Warning

/-! ## Tools among each other -/

/-- The elements that have come before, `seen` being those before the list. -/
def recurring (seen : List String) : List String → List String
  | [] => []
  | name :: rest =>
    if seen.contains name then name :: recurring seen rest else recurring (name :: seen) rest

/-- The names that occur at least twice, by their second occurrence. -/
def repeatedNames (names : List String) : List String := distinct (recurring [] names)

/-- The different names of the tools that give a function's name. -/
def namesGiving (tools : List Tool) (identifier : String) : List String :=
  distinct ((tools.filter fun t => t.identifier = identifier).map Tool.name)

/-- The problem that different names give one function's name. -/
def sharedProblem? (tools : List Tool) (identifier : String) : Option Problem :=
  let names := namesGiving tools identifier
  if 1 < names.length then some (.sharedFunction identifier names) else none

/-- The problems of the tools among each other. -/
def sharedProblems (tools : List Tool) : List Problem :=
  (repeatedNames (tools.map Tool.name)).map .repeatedName ++
    (distinct (tools.map Tool.identifier)).filterMap (sharedProblem? tools)

/-! ## Single tools -/

namespace Tool

def hasBlankName (t : Tool) : Bool := Text.isBlank t.name

def functionProblems (t : Tool) : List Problem :=
  if !Identifier.isValid t.identifier then [.badFunctionName t.name t.identifier]
  else if Server.reservedNames.contains t.identifier then
    [.reservedFunctionName t.name t.identifier]
  else []

def parameterProblem? (t : Tool) (parameter : String) : Option Problem :=
  if !Identifier.isValid parameter then some (.badParameter t.name parameter)
  else if Server.reservedNames.contains parameter then some (.reservedParameter t.name parameter)
  else none

def endpointProblems (t : Tool) : List Problem :=
  if t.handler = .api ∧ t.endpoint?.isNone then [.missingEndpoint t.name] else []

/-- The problems of a tool by itself. A tool without a name has no others. -/
def problems (t : Tool) : List Problem :=
  if t.hasBlankName then [.blankName]
  else
    t.functionProblems ++ t.inputSchema.names.filterMap t.parameterProblem? ++ t.endpointProblems

/-- The warnings about an endpoint: about its scheme, then about placeholders that nothing fills. -/
def endpointWarnings (t : Tool) (endpoint : String) : List Warning :=
  (if Url.isWebAddress endpoint then [] else [.notAWebAddress t.name]) ++
    ((UrlTemplate.parse endpoint).unbound t.inputSchema.names).map (.unboundPlaceholder t.name)

def warnings (t : Tool) : List Warning :=
  if t.hasBlankName then []
  else
    t.inputSchema.danglingRequired.map (.undeclaredParameter t.name) ++
      match t.handler, t.endpoint? with
      | .api, some endpoint => t.endpointWarnings endpoint
      | _, _ => []

end Tool

/-! ## Projects -/

/-- What was found in a project. -/
structure Report where
  problems : List Problem
  warnings : List Warning
  deriving DecidableEq, Repr

namespace Report

/-- Whether the generated server is usable. -/
def isValid (r : Report) : Bool := r.problems.isEmpty

/-- The report itself if the project is usable, otherwise its problems. -/
def accept (r : Report) : Except (List Problem) Report :=
  if r.isValid then .ok r else .error r.problems

end Report

def Project.validate (p : Project) : Report where
  problems := sharedProblems p.tools ++ p.tools.flatMap Tool.problems
  warnings := p.tools.flatMap Tool.warnings

end ToolScaffold
