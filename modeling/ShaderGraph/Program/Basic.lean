import ShaderGraph.Graph.Basic

/-!
# Programs — fragment shaders, line by line

A program is data until it is printed: its precision, the uniforms it declares,
the definitions of its functions, the calls of its main function, and the value
that becomes the color of a fragment.
-/

namespace ShaderGraph

/-- A declared uniform. -/
structure UniformDeclaration where
  type : ValueType
  name : String
  deriving DecidableEq, Repr

/-- A call: a variable of a type, set to what a function returns. -/
structure Call where
  type : ValueType
  result : String
  function : String
  arguments : List String
  deriving DecidableEq, Repr

/-- A fragment shader. -/
structure Program where
  precision : Precision
  uniforms : List UniformDeclaration
  definitions : List String
  calls : List Call
  outputType : ValueType
  output : String
  deriving DecidableEq, Repr

/-- A uniform's declaration. -/
def UniformDeclaration.line (u : UniformDeclaration) : String :=
  "uniform " ++ u.type.name ++ " " ++ u.name ++ ";"

/-- A call's statement. -/
def Call.line (c : Call) : String :=
  c.type.name ++ " " ++ c.result ++ " = " ++ c.function ++ "("
    ++ String.intercalate ", " c.arguments ++ ");"

/-- A value of a type as a color with four components. -/
def ValueType.toColor (value : String) : ValueType → String
  | .vec4 => value
  | .vec3 => "vec4(" ++ value ++ ", 1.0)"
  | .float => "vec4(vec3(" ++ value ++ "), 1.0)"
  | .vec2 => "vec4(" ++ value ++ ", 0.0, 1.0)"

namespace Program

/-- The statement that computes the coordinates of a fragment. -/
def coordinatesLine : String := "vec2 uv = gl_FragCoord.xy / iResolution.xy;"

/-- The variable a fragment's color is written to. -/
def colorVariable : String := "gl_FragColor"

/-- The lines of the main function. -/
def mainLines (p : Program) : List String :=
  ["void main() \x7b", "  " ++ coordinatesLine, ""]
    ++ p.calls.map (fun c => "  " ++ c.line)
    ++ ["  " ++ colorVariable ++ " = " ++ p.outputType.toColor p.output ++ ";", "\x7d"]

/-- The lines of a program. A definition counts as one, whatever it holds. -/
def lines (p : Program) : List String :=
  ["precision " ++ p.precision.name ++ " float;", ""]
    ++ p.uniforms.map UniformDeclaration.line
    ++ [""]
    ++ p.definitions.flatMap (fun d => [d, ""])
    ++ p.mainLines

/-- The text of a program. -/
def text (p : Program) : String :=
  String.intercalate "\n" p.lines ++ "\n"

/-! ## Uniforms -/

/-- The uniforms every program declares. -/
def standardUniforms : List UniformDeclaration := [⟨.vec2, "iResolution"⟩, ⟨.float, "iTime"⟩]

/-- A uniform declared behind the others, unless its name is declared already. -/
def declareUniform (declared : List UniformDeclaration) (u : Uniform) : List UniformDeclaration :=
  if declared.any (·.name == u.name) then declared else declared ++ [⟨u.type, u.name⟩]

/-- The standard uniforms, then those of a list. -/
def declareUniforms (uniforms : List Uniform) : List UniformDeclaration :=
  uniforms.foldl declareUniform standardUniforms

end Program

end ShaderGraph
