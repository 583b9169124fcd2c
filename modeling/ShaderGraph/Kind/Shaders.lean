/-!
# The functions of the built-in kinds

Each built-in kind is one shader function, written here as a template. A
template names three placeholders: the name of the function, the id of the block
and the type of the output. Every template starts and ends with a line break.
-/

namespace ShaderGraph.Shaders

/-- Lines as a template. -/
def template (lines : List String) : String :=
  "\n" ++ String.intercalate "\n" lines ++ "\n"

/-- Circle shape. -/
def circle : String := template [
  "// Circle shape",
  "float \x7b\x7bname\x7d\x7d(vec2 uv, vec2 center, float radius, float softness) \x7b",
  "  float d = length(uv - center);",
  "  return 1.0 - smoothstep(radius - softness, radius + softness, d);",
  "\x7d"]

/-- Rectangle shape. -/
def rectangle : String := template [
  "// Rectangle shape",
  "float \x7b\x7bname\x7d\x7d(vec2 uv, vec2 center, vec2 size, float cornerRadius) \x7b",
  "  vec2 d = abs(uv - center) - size * 0.5;",
  "  float dist = length(max(d, 0.0)) + min(max(d.x, d.y), 0.0) - cornerRadius;",
  "  return 1.0 - smoothstep(-0.01, 0.01, dist);",
  "\x7d"]

/-- Ring shape. -/
def ring : String := template [
  "// Ring shape",
  "float \x7b\x7bname\x7d\x7d(vec2 uv, vec2 center, float innerRadius, float outerRadius, float softness) \x7b",
  "  float d = length(uv - center);",
  "  float outer = 1.0 - smoothstep(outerRadius - softness, outerRadius + softness, d);",
  "  float inner = smoothstep(innerRadius - softness, innerRadius + softness, d);",
  "  return outer * inner;",
  "\x7d"]

/-- Star shape. -/
def star : String := template [
  "// Star shape",
  "float \x7b\x7bname\x7d\x7d(vec2 uv, vec2 center, float points, float size, float softness) \x7b",
  "  vec2 p = uv - center;",
  "  float a = atan(p.y, p.x);",
  "  float r = length(p);",
  "  float m = 3.14159265359 / max(points, 1.0);",
  "  float d = cos(floor(0.5 + a / (2.0 * m)) * 2.0 * m - a) * r;",
  "  return 1.0 - smoothstep(size - softness, size + softness, d);",
  "\x7d"]

/-- Wave pattern. -/
def wave : String := template [
  "// Wave pattern",
  "float \x7b\x7bname\x7d\x7d(vec2 uv, float frequency, float amplitude, float speed, float direction) \x7b",
  "  float angle = direction * 3.14159265359 / 180.0;",
  "  vec2 dir = vec2(cos(angle), sin(angle));",
  "  float d = dot(uv, dir);",
  "  return sin(d * frequency + iTime * speed) * amplitude;",
  "\x7d"]

/-- Grid pattern. -/
def grid : String := template [
  "// Grid pattern",
  "float \x7b\x7bname\x7d\x7d(vec2 uv, float cellSize, float lineWidth) \x7b",
  "  vec2 cell = abs(fract(uv / cellSize - 0.5) - 0.5) * cellSize * 100.0;",
  "  float line = min(cell.x, cell.y);",
  "  return 1.0 - min(line * lineWidth, 1.0);",
  "\x7d"]

/-- Checkerboard pattern. -/
def checkerboard : String := template [
  "// Checkerboard pattern",
  "float \x7b\x7bname\x7d\x7d(vec2 uv, float scale, float rotation) \x7b",
  "  float angle = rotation * 3.14159265359 / 180.0;",
  "  mat2 rot = mat2(cos(angle), -sin(angle), sin(angle), cos(angle));",
  "  vec2 rotUV = rot * (uv - 0.5) + 0.5;",
  "  vec2 checker = floor(rotUV * scale);",
  "  return mod(checker.x + checker.y, 2.0);",
  "\x7d"]

/-- Solid color. -/
def solidColor : String := template [
  "// Solid color",
  "vec4 \x7b\x7bname\x7d\x7d(vec3 color, float alpha) \x7b",
  "  return vec4(color, alpha);",
  "\x7d"]

/-- Linear gradient. -/
def gradient : String := template [
  "// Linear gradient",
  "vec3 \x7b\x7bname\x7d\x7d(vec2 uv, vec3 color1, vec3 color2, float angle, float position) \x7b",
  "  float angleRad = angle * 3.14159265359 / 180.0;",
  "  vec2 dir = vec2(cos(angleRad), sin(angleRad));",
  "  float d = dot(uv - vec2(0.5), dir) + 0.5 + position;",
  "  return mix(color1, color2, clamp(d, 0.0, 1.0));",
  "\x7d"]

/-- Rainbow color. -/
def rainbow : String := template [
  "// Rainbow color",
  "vec3 \x7b\x7bname\x7d\x7d(vec2 uv, float speed, float saturation) \x7b",
  "  float hue = fract(length(uv - 0.5) + iTime * speed);",
  "  vec3 c = abs(hue * 6.0 - vec3(3.0, 2.0, 4.0)) - 1.0;",
  "  return clamp(c, 0.0, 1.0) * saturation + (1.0 - saturation);",
  "\x7d"]

/-- HSV adjustment. -/
def hsvAdjust : String := template [
  "// HSV adjustment",
  "vec3 rgb2hsv_\x7b\x7bid\x7d\x7d(vec3 c) \x7b",
  "  vec4 K = vec4(0.0, -1.0 / 3.0, 2.0 / 3.0, -1.0);",
  "  vec4 p = mix(vec4(c.bg, K.wz), vec4(c.gb, K.xy), step(c.b, c.g));",
  "  vec4 q = mix(vec4(p.xyw, c.r), vec4(c.r, p.yzx), step(p.x, c.r));",
  "  float d = q.x - min(q.w, q.y);",
  "  float e = 1.0e-10;",
  "  return vec3(abs(q.z + (q.w - q.y) / (6.0 * d + e)), d / (q.x + e), q.x);",
  "\x7d",
  "",
  "vec3 hsv2rgb_\x7b\x7bid\x7d\x7d(vec3 c) \x7b",
  "  vec4 K = vec4(1.0, 2.0 / 3.0, 1.0 / 3.0, 3.0);",
  "  vec3 p = abs(fract(c.xxx + K.xyz) * 6.0 - K.www);",
  "  return c.z * mix(K.xxx, clamp(p - K.xxx, 0.0, 1.0), c.y);",
  "\x7d",
  "",
  "vec3 \x7b\x7bname\x7d\x7d(vec3 color, float hueShift, float saturation, float brightness) \x7b",
  "  vec3 hsv = rgb2hsv_\x7b\x7bid\x7d\x7d(color);",
  "  hsv.x = fract(hsv.x + hueShift);",
  "  hsv.y = clamp(hsv.y * saturation, 0.0, 1.0);",
  "  hsv.z = clamp(hsv.z * brightness, 0.0, 1.0);",
  "  return hsv2rgb_\x7b\x7bid\x7d\x7d(hsv);",
  "\x7d"]

/-- Move coordinates. -/
def move : String := template [
  "// Move/translate coordinates",
  "vec2 \x7b\x7bname\x7d\x7d(vec2 uv, float xOffset, float yOffset) \x7b",
  "  return uv - vec2(xOffset, yOffset);",
  "\x7d"]

/-- Rotate coordinates. -/
def rotate : String := template [
  "// Rotate coordinates",
  "vec2 \x7b\x7bname\x7d\x7d(vec2 uv, vec2 center, float angle) \x7b",
  "  float angleRad = angle * 3.14159265359 / 180.0;",
  "  mat2 rot = mat2(cos(angleRad), -sin(angleRad), sin(angleRad), cos(angleRad));",
  "  return rot * (uv - center) + center;",
  "\x7d"]

/-- Scale coordinates. -/
def scale : String := template [
  "// Scale coordinates",
  "vec2 \x7b\x7bname\x7d\x7d(vec2 uv, vec2 center, float scaleX, float scaleY) \x7b",
  "  vec2 p = uv - center;",
  "  p /= vec2(scaleX, scaleY);",
  "  return p + center;",
  "\x7d"]

/-- Distort coordinates. -/
def distort : String := template [
  "// Distort coordinates",
  "vec2 \x7b\x7bname\x7d\x7d(vec2 uv, float strength, float frequency) \x7b",
  "  vec2 distortion = vec2(",
  "    sin(uv.y * frequency + iTime) * strength,",
  "    cos(uv.x * frequency + iTime) * strength",
  "  );",
  "  return uv + distortion;",
  "\x7d"]

/-- Mix/blend two values. -/
def mix : String := template [
  "// Mix/blend two values",
  "\x7b\x7boutputType\x7d\x7d \x7b\x7bname\x7d\x7d(\x7b\x7boutputType\x7d\x7d layer1, \x7b\x7boutputType\x7d\x7d layer2, float amount) \x7b",
  "  return mix(layer1, layer2, amount);",
  "\x7d"]

/-- Multiply two values. -/
def multiply : String := template [
  "// Multiply two values",
  "\x7b\x7boutputType\x7d\x7d \x7b\x7bname\x7d\x7d(\x7b\x7boutputType\x7d\x7d layer1, \x7b\x7boutputType\x7d\x7d layer2) \x7b",
  "  return layer1 * layer2;",
  "\x7d"]

/-- Add two values. -/
def add : String := template [
  "// Add two values",
  "\x7b\x7boutputType\x7d\x7d \x7b\x7bname\x7d\x7d(\x7b\x7boutputType\x7d\x7d layer1, \x7b\x7boutputType\x7d\x7d layer2) \x7b",
  "  return layer1 + layer2;",
  "\x7d"]

/-- Overlay blend mode. -/
def overlay : String := template [
  "// Overlay blend mode",
  "vec3 \x7b\x7bname\x7d\x7d(vec3 base, vec3 blend) \x7b",
  "  return mix(",
  "    2.0 * base * blend,",
  "    1.0 - 2.0 * (1.0 - base) * (1.0 - blend),",
  "    step(0.5, base)",
  "  );",
  "\x7d"]

/-- Glow effect. -/
def glow : String := template [
  "// Glow effect",
  "vec3 \x7b\x7bname\x7d\x7d(vec3 color, float intensity, float size) \x7b",
  "  float luminance = dot(color, vec3(0.299, 0.587, 0.114));",
  "  return color + color * luminance * intensity * size;",
  "\x7d"]

/-- Noise function. -/
def noise : String := template [
  "// Noise function",
  "float \x7b\x7bname\x7d\x7d(vec2 p, float scale, float speed) \x7b",
  "  vec2 scaled = p * scale + iTime * speed;",
  "  return fract(sin(dot(scaled, vec2(12.9898, 78.233))) * 43758.5453);",
  "\x7d"]

/-- Ripple effect. -/
def ripple : String := template [
  "// Ripple effect",
  "float \x7b\x7bname\x7d\x7d(vec2 uv, vec2 center, float frequency, float amplitude, float speed) \x7b",
  "  float d = length(uv - center);",
  "  return sin(d * frequency - iTime * speed) * amplitude * (1.0 - d);",
  "\x7d"]

end ShaderGraph.Shaders
