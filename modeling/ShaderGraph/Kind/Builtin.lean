import ShaderGraph.Kind.Catalog
import ShaderGraph.Kind.Shaders
import ShaderGraph.Number.Decimal

/-!
# The built-in kinds
-/

namespace ShaderGraph

/-- The kinds that come with the compiler. -/
def builtinKinds : List Kind := [
  { id := "shape-circle"
    name := "Circle"
    category := .shape
    description := "Creates a circular shape with soft edges"
    icon := "⭕"
    template := Shaders.circle
    inputs := [
      .coordinates "uv" "UV",
      .components .vec2 "center" "Center" [0.5, 0.5],
      .scalar "radius" "Radius" 0.3,
      .scalar "softness" "Softness" 0.01]
    output := .result .float "shape" "Shape"
    moreOutputs := [] },
  { id := "shape-rectangle"
    name := "Rectangle"
    category := .shape
    description := "Creates a rectangular shape with rounded corners"
    icon := "⬜"
    template := Shaders.rectangle
    inputs := [
      .coordinates "uv" "UV",
      .components .vec2 "center" "Center" [0.5, 0.5],
      .components .vec2 "size" "Size" [0.5, 0.3],
      .scalar "cornerRadius" "Corner Radius" 0.05]
    output := .result .float "shape" "Shape"
    moreOutputs := [] },
  { id := "shape-ring"
    name := "Ring"
    category := .shape
    description := "Creates a ring/donut shape"
    icon := "⭕"
    template := Shaders.ring
    inputs := [
      .coordinates "uv" "UV",
      .components .vec2 "center" "Center" [0.5, 0.5],
      .scalar "innerRadius" "Inner Radius" 0.2,
      .scalar "outerRadius" "Outer Radius" 0.3,
      .scalar "softness" "Softness" 0.01]
    output := .result .float "shape" "Shape"
    moreOutputs := [] },
  { id := "shape-star"
    name := "Star"
    category := .shape
    description := "Creates a star shape"
    icon := "⭐"
    template := Shaders.star
    inputs := [
      .coordinates "uv" "UV",
      .components .vec2 "center" "Center" [0.5, 0.5],
      .scalar "points" "Points" 5.0,
      .scalar "size" "Size" 0.3,
      .scalar "softness" "Softness" 0.01]
    output := .result .float "shape" "Shape"
    moreOutputs := [] },
  { id := "pattern-wave"
    name := "Wave"
    category := .pattern
    description := "Creates animated wave distortion"
    icon := "🌊"
    template := Shaders.wave
    inputs := [
      .coordinates "uv" "UV",
      .scalar "frequency" "Frequency" 10.0,
      .scalar "amplitude" "Amplitude" 0.1,
      .scalar "speed" "Speed" 1.0,
      .scalar "direction" "Direction" 0.0]
    output := .result .float "wave" "Wave"
    moreOutputs := [] },
  { id := "pattern-grid"
    name := "Grid"
    category := .pattern
    description := "Creates a grid pattern"
    icon := "⊞"
    template := Shaders.grid
    inputs := [
      .coordinates "uv" "UV",
      .scalar "cellSize" "Cell Size" 0.1,
      .scalar "lineWidth" "Line Width" 1.0]
    output := .result .float "grid" "Grid"
    moreOutputs := [] },
  { id := "pattern-checkerboard"
    name := "Checkerboard"
    category := .pattern
    description := "Classic checkerboard pattern"
    icon := "▦"
    template := Shaders.checkerboard
    inputs := [
      .coordinates "uv" "UV",
      .scalar "scale" "Scale" 8.0,
      .scalar "rotation" "Rotation" 0.0]
    output := .result .float "pattern" "Pattern"
    moreOutputs := [] },
  { id := "color-solid"
    name := "Solid Color"
    category := .color
    description := "Outputs a solid color with alpha"
    icon := "🎨"
    template := Shaders.solidColor
    inputs := [
      .components .vec3 "color" "Color" [1.0, 0.5, 0.0],
      .scalar "alpha" "Alpha" 1.0]
    output := .result .vec4 "color" "Color"
    moreOutputs := [] },
  { id := "color-gradient"
    name := "Gradient"
    category := .color
    description := "Linear gradient between two colors"
    icon := "🌈"
    template := Shaders.gradient
    inputs := [
      .coordinates "uv" "UV",
      .components .vec3 "color1" "Color 1" [0.0, 0.5, 1.0],
      .components .vec3 "color2" "Color 2" [1.0, 0.0, 0.5],
      .scalar "angle" "Angle" 0.0,
      .scalar "position" "Position" 0.0]
    output := .result .vec3 "color" "Color"
    moreOutputs := [] },
  { id := "color-rainbow"
    name := "Rainbow"
    category := .color
    description := "Animated rainbow colors"
    icon := "🌈"
    template := Shaders.rainbow
    inputs := [
      .coordinates "uv" "UV",
      .scalar "speed" "Speed" 0.5,
      .scalar "saturation" "Saturation" 1.0]
    output := .result .vec3 "color" "Color"
    moreOutputs := [] },
  { id := "color-hsv-adjust"
    name := "HSV Adjust"
    category := .color
    description := "Adjust hue, saturation, and value"
    icon := "🎨"
    template := Shaders.hsvAdjust
    inputs := [
      .components .vec3 "color" "Color" [1.0, 1.0, 1.0],
      .scalar "hueShift" "Hue Shift" 0.0,
      .scalar "saturation" "Saturation" 1.0,
      .scalar "brightness" "Brightness" 1.0]
    output := .result .vec3 "color" "Color"
    moreOutputs := [] },
  { id := "transform-move"
    name := "Move"
    category := .transform
    description := "Translates UV coordinates"
    icon := "↔️"
    template := Shaders.move
    inputs := [
      .coordinates "uv" "UV",
      .scalar "xOffset" "X Offset" 0.0,
      .scalar "yOffset" "Y Offset" 0.0]
    output := .result .vec2 "uv" "UV"
    moreOutputs := [] },
  { id := "transform-rotate"
    name := "Rotate"
    category := .transform
    description := "Rotates UV coordinates around a center point"
    icon := "🔄"
    template := Shaders.rotate
    inputs := [
      .coordinates "uv" "UV",
      .components .vec2 "center" "Center" [0.5, 0.5],
      .scalar "angle" "Angle" 0.0]
    output := .result .vec2 "uv" "UV"
    moreOutputs := [] },
  { id := "transform-scale"
    name := "Scale"
    category := .transform
    description := "Scales UV coordinates"
    icon := "⤢"
    template := Shaders.scale
    inputs := [
      .coordinates "uv" "UV",
      .components .vec2 "center" "Center" [0.5, 0.5],
      .scalar "scaleX" "Scale X" 1.0,
      .scalar "scaleY" "Scale Y" 1.0]
    output := .result .vec2 "uv" "UV"
    moreOutputs := [] },
  { id := "transform-distort"
    name := "Distort"
    category := .transform
    description := "Wave-based distortion"
    icon := "〰️"
    template := Shaders.distort
    inputs := [
      .coordinates "uv" "UV",
      .scalar "strength" "Strength" 0.1,
      .scalar "frequency" "Frequency" 5.0]
    output := .result .vec2 "uv" "UV"
    moreOutputs := [] },
  { id := "blend-mix"
    name := "Mix"
    category := .blend
    description := "Blends two values with adjustable amount"
    icon := "⚖️"
    template := Shaders.mix
    inputs := [
      .components .vec3 "layer1" "Layer 1" [0.0, 0.0, 0.0],
      .components .vec3 "layer2" "Layer 2" [1.0, 1.0, 1.0],
      .scalar "amount" "Amount" 0.5]
    output := .result .vec3 "result" "Result"
    moreOutputs := [] },
  { id := "blend-multiply"
    name := "Multiply"
    category := .blend
    description := "Multiplies two values"
    icon := "✖️"
    template := Shaders.multiply
    inputs := [
      .components .vec3 "layer1" "Layer 1" [1.0, 1.0, 1.0],
      .components .vec3 "layer2" "Layer 2" [1.0, 1.0, 1.0]]
    output := .result .vec3 "result" "Result"
    moreOutputs := [] },
  { id := "blend-add"
    name := "Add"
    category := .blend
    description := "Adds two values together"
    icon := "➕"
    template := Shaders.add
    inputs := [
      .components .vec3 "layer1" "Layer 1" [0.0, 0.0, 0.0],
      .components .vec3 "layer2" "Layer 2" [0.0, 0.0, 0.0]]
    output := .result .vec3 "result" "Result"
    moreOutputs := [] },
  { id := "blend-overlay"
    name := "Overlay"
    category := .blend
    description := "Overlay blend mode"
    icon := "🔀"
    template := Shaders.overlay
    inputs := [
      .components .vec3 "base" "Base" [0.5, 0.5, 0.5],
      .components .vec3 "blend" "Blend" [0.5, 0.5, 0.5]]
    output := .result .vec3 "result" "Result"
    moreOutputs := [] },
  { id := "effect-glow"
    name := "Glow"
    category := .effect
    description := "Adds glow effect to color"
    icon := "✨"
    template := Shaders.glow
    inputs := [
      .components .vec3 "color" "Color" [1.0, 1.0, 1.0],
      .scalar "intensity" "Intensity" 1.0,
      .scalar "size" "Size" 0.5]
    output := .result .vec3 "color" "Color"
    moreOutputs := [] },
  { id := "effect-noise"
    name := "Noise"
    category := .effect
    description := "Random noise texture"
    icon := "📺"
    template := Shaders.noise
    inputs := [
      .coordinates "p" "Position",
      .scalar "scale" "Scale" 10.0,
      .scalar "speed" "Speed" 0.1]
    output := .result .float "noise" "Noise"
    moreOutputs := [] },
  { id := "effect-ripple"
    name := "Ripple"
    category := .effect
    description := "Concentric ripple effect"
    icon := "〰️"
    template := Shaders.ripple
    inputs := [
      .coordinates "uv" "UV",
      .components .vec2 "center" "Center" [0.5, 0.5],
      .scalar "frequency" "Frequency" 20.0,
      .scalar "amplitude" "Amplitude" 0.1,
      .scalar "speed" "Speed" 2.0]
    output := .result .float "ripple" "Ripple"
    moreOutputs := [] }]

/-- The catalog that comes with the compiler. -/
def Catalog.builtin : Catalog := ⟨builtinKinds⟩

end ShaderGraph
