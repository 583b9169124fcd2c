import ShaderGraph.Text.Digit
import ShaderGraph.Text.Quoted
import ShaderGraph.Text.Substitute

/-!
# The grammar of command lines

A command takes options and at most one operand. An option is a flag or takes a
value; a value is joined to a long option by `=` and to a short one directly, or
it is the next argument. A long option may be cut short as long as only one
option starts that way. After the divider `--` no argument is an option; where the
divider is joined to an option, the option is given no value.

A line is read in two passes. The first decides of every argument what it is,
by the argument alone; it fails if a short form fits several options. The second
goes through the arguments from left to right and gathers what they say; it fails
at the first option that is used wrongly. Only then is the operand missed, and
last come the arguments that nobody took.
-/

namespace ShaderGraph.Command

/-! ## Grammars -/

/-- What an option does to what was gathered in front of it. -/
inductive Action (σ : Type)
  /-- Asks for the help text. -/
  | help
  /-- A flag; it sees the spelling that was used. -/
  | flag (set : String → σ → σ)
  /-- An option with a value, which it may refuse for a reason; `none` is no
  value. -/
  | value (set : Option String → σ → Except String σ)

/-- The option takes a value. -/
def Action.takesValue {σ : Type} : Action σ → Bool
  | .value _ => true
  | _ => false

/-- An option. -/
structure Opt (σ : Type) where
  spellings : List String
  action : Action σ

/-- The name of an option in messages. -/
def Opt.name {σ : Type} (opt : Opt σ) : String := String.intercalate "/" opt.spellings

/-- The operand. -/
structure Operand (σ : Type) where
  name : String
  set : String → σ → σ

/-- A grammar. -/
structure Grammar (σ : Type) where
  program : String
  usage : String
  /-- What the help text says below the usage. -/
  details : String
  options : List (Opt σ)
  operand : Option (Operand σ)

/-- The option that asks for help. -/
def Opt.help {σ : Type} : Opt σ := ⟨["-h", "--help"], .help⟩

/-! ## Misuse -/

/-- What is wrong with a command line. -/
inductive Misuse
  | ambiguous (argument : String) (spellings : List String)
  | valueMissing (option : String)
  | valueIgnored (option value : String)
  | valueRefused (option reason : String)
  | operandMissing (operand : String)
  | unrecognized (arguments : List String)
  deriving DecidableEq, Repr

/-- The message of a misuse. -/
def Misuse.message : Misuse → String
  | .ambiguous argument spellings =>
    "ambiguous option: " ++ argument ++ " could match " ++ String.intercalate ", " spellings
  | .valueMissing option => "argument " ++ option ++ ": expected one argument"
  | .valueIgnored option value =>
    "argument " ++ option ++ ": ignored explicit argument " ++ Text.quoted value
  | .valueRefused option reason => "argument " ++ option ++ ": " ++ reason
  | .operandMissing operand => "the following arguments are required: " ++ operand
  | .unrecognized arguments => "unrecognized arguments: " ++ String.intercalate " " arguments

/-- Why a line gives nothing to do: help was asked for, or it was misused. -/
inductive Stop
  | help
  | misuse (misuse : Misuse)
  deriving DecidableEq, Repr

/-! ## The first pass: what each argument is -/

/-- An option as it was written: the option, the spelling meant, and the text
joined to it. -/
structure Mention (σ : Type) where
  opt : Opt σ
  spelling : String
  joined : Option String

/-- What an argument is. -/
inductive Token (σ : Type)
  | plain (argument : String)
  | mention (mention : Mention σ)
  | unknownOption (argument : String)
  | divider

/-- A minus sign and a number, with or without a fraction; one line break may
follow. -/
def isNegativeNumber (cs : List Char) : Bool :=
  let isDigit (c : Char) : Bool := (Text.decimalDigit? c).isSome
  let cs := if cs.getLast? = some '\n' then cs.dropLast else cs
  match cs with
  | '-' :: cs =>
    let whole := cs.takeWhile isDigit
    match cs.dropWhile isDigit with
    | [] => !whole.isEmpty
    | '.' :: places => !places.isEmpty && places.all isDigit
    | _ => false
  | _ => false

namespace Grammar

variable {σ : Type}

/-- Every spelling with its option, in the order of the grammar. -/
def spellings (g : Grammar σ) : List (String × Opt σ) :=
  g.options.flatMap fun opt => opt.spellings.map (·, opt)

/-- The option of a spelling. -/
def find? (g : Grammar σ) (spelling : String) : Option (Opt σ) :=
  (g.spellings.find? (·.1 == spelling)).map (·.2)

/-- An argument cut at its first `=`, if there is one. -/
def cutValue (argument : String) : String × Option String :=
  match Text.cut? '=' argument.toList with
  | some (front, behind) => (String.ofList front, some (String.ofList behind))
  | none => (argument, none)

/-- The options a long argument may be cut short from. -/
def longMentions (g : Grammar σ) (argument : String) : List (Mention σ) :=
  let (start, joined) := cutValue argument
  g.spellings.filterMap fun (spelling, opt) =>
    if start.toList.isPrefixOf spelling.toList then some ⟨opt, spelling, joined⟩ else none

/-- The options a short argument may mean: the option of its first letter, with
the rest joined to it, or an option that starts with the argument. -/
def shortMentions (g : Grammar σ) (argument : String) : List (Mention σ) :=
  let cs := argument.toList
  g.spellings.filterMap fun (spelling, opt) =>
    if spelling.toList = cs.take 2 then some ⟨opt, spelling, some (String.ofList (cs.drop 2))⟩
    else if cs.isPrefixOf spelling.toList then some ⟨opt, spelling, none⟩
    else none

/-- What an argument with a dash in front is, when it is no spelling itself. -/
def guess (g : Grammar σ) (argument : String) : Except Misuse (Token σ) :=
  let cs := argument.toList
  let mentions :=
    if cs.drop 1 |>.head? |>.any (· = '-') then g.longMentions argument else g.shortMentions argument
  match mentions with
  | [mention] => .ok (.mention mention)
  | [] =>
    if isNegativeNumber cs || cs.contains ' ' then .ok (.plain argument)
    else .ok (.unknownOption argument)
  | several => .error (.ambiguous argument (several.map (·.spelling)))

/-- What an argument is. -/
def classify (g : Grammar σ) (argument : String) : Except Misuse (Token σ) :=
  let cs := argument.toList
  if cs.head? ≠ some '-' then .ok (.plain argument)
  else
    match g.find? argument with
    | some opt => .ok (.mention ⟨opt, argument, none⟩)
    | none =>
      if cs.length = 1 then .ok (.plain argument)
      else
        let (start, joined) := cutValue argument
        match joined, g.find? start with
        | some _, some opt => .ok (.mention ⟨opt, start, joined⟩)
        | _, _ => g.guess argument

/-- The divider. -/
def dividerText : String := "--"

/-- What the arguments of a line are. -/
def tokens (g : Grammar σ) : List String → Except Misuse (List (Token σ))
  | [] => .ok []
  | argument :: rest =>
    if argument = dividerText then .ok (.divider :: rest.map .plain)
    else do
      let token ← g.classify argument
      let tokens ← g.tokens rest
      .ok (token :: tokens)

/-! ## Options in one argument -/

/-- The use of an option. -/
structure Use (σ : Type) where
  opt : Opt σ
  spelling : String
  value : Option String

/-- What one argument says: the options used in it, and an option at its end that
has no value yet. -/
structure Bundle (σ : Type) where
  uses : List (Use σ)
  pending : Option (Opt σ × String)

/-- A spelling of one letter. -/
def isShort (spelling : String) : Bool := (spelling.toList.drop 1).head? ≠ some '-'

/-- An option used with a text joined to it. -/
def joinedUse (opt : Opt σ) (spelling joined : String) : Use σ :=
  ⟨opt, spelling, if joined = dividerText then none else some joined⟩

/-- An option with a text joined to it. A flag of one letter lets further
letters follow; each is an option of its own, the last of which may have a
value. -/
def unbundle (g : Grammar σ) (opt : Opt σ) (spelling : String) :
    List Char → Except Misuse (Bundle σ)
  | [] =>
    if opt.action.takesValue then .ok ⟨[joinedUse opt spelling ""], none⟩
    else .error (.valueIgnored opt.name "")
  | c :: cs =>
    let joined := String.ofList (c :: cs)
    let next := String.ofList ['-', c]
    if opt.action.takesValue then .ok ⟨[joinedUse opt spelling joined], none⟩
    else
      match g.find? next with
      | none => .error (.valueIgnored opt.name joined)
      | some nextOpt =>
        let used : Use σ := ⟨opt, spelling, none⟩
        if !isShort spelling then .error (.valueIgnored opt.name joined)
        else if cs.isEmpty then .ok ⟨[used], some (nextOpt, next)⟩
        else (g.unbundle nextOpt next cs).map fun b => { b with uses := used :: b.uses }

/-- What the mention of an option says. -/
def bundle (g : Grammar σ) (m : Mention σ) : Except Misuse (Bundle σ) :=
  match m.joined with
  | none => .ok ⟨[], some (m.opt, m.spelling)⟩
  | some text => g.unbundle m.opt m.spelling text.toList

/-! ## The second pass: what the line says -/

/-- What was gathered: the options, whether the operand is there, and the
arguments that nobody took. -/
structure Gathered (σ : Type) where
  options : σ
  filled : Bool
  stray : List String

/-- An option put to use. -/
def Use.apply (use : Use σ) (s : Gathered σ) : Except Stop (Gathered σ) :=
  match use.opt.action with
  | .help => .error .help
  | .flag set => .ok { s with options := set use.spelling s.options }
  | .value set =>
    match set use.value s.options with
    | .ok options => .ok { s with options := options }
    | .error reason => .error (.misuse (.valueRefused use.opt.name reason))

/-- Options put to use in order. -/
def applyAll (uses : List (Use σ)) (s : Gathered σ) : Except Stop (Gathered σ) :=
  uses.foldlM (fun s use => use.apply s) s

/-- The argument taken as the operand, or by nobody. -/
def takePlain (g : Grammar σ) (argument : String) (s : Gathered σ) : Gathered σ :=
  match g.operand, s.filled with
  | some operand, false => { s with options := operand.set argument s.options, filled := true }
  | _, _ => { s with stray := s.stray ++ [argument] }

/-- An argument as it was written, in the part of a line without options. -/
def writtenPlain : Token σ → String
  | .plain argument => argument
  | .divider => dividerText
  | .unknownOption argument => argument
  | .mention m => m.spelling

/-- The part of a line behind its last option. The operand takes the first
argument and the dividers around it; if it has been taken before, a divider is
an argument that nobody takes. -/
def takeRest (g : Grammar σ) (tokens : List (Token σ)) (s : Gathered σ) : Gathered σ :=
  let leave (s : Gathered σ) (tokens : List (Token σ)) : Gathered σ :=
    { s with stray := s.stray ++ tokens.map writtenPlain }
  if g.operand.isNone || s.filled then leave s tokens
  else
    match tokens with
    | .divider :: .plain argument :: rest => leave (g.takePlain argument s) rest
    | .plain argument :: .divider :: rest => leave (g.takePlain argument s) rest
    | .plain argument :: rest => leave (g.takePlain argument s) rest
    | tokens => leave s tokens

/-- The token is an option, known or not. -/
def isOption : Token σ → Bool
  | .mention _ => true
  | .unknownOption _ => true
  | _ => false

/-- The arguments of a line, from left to right. -/
def gather (g : Grammar σ) : List (Token σ) → Gathered σ → Except Stop (Gathered σ)
  | [], s => .ok (g.takeRest [] s)
  | token :: rest, s =>
    if !(token :: rest).any isOption then .ok (g.takeRest (token :: rest) s)
    else
      match token with
      | .plain argument => g.gather rest (g.takePlain argument s)
      | .divider => g.gather rest s
      | .unknownOption argument => g.gather rest { s with stray := s.stray ++ [argument] }
      | .mention m => do
        let b ← (g.bundle m).mapError .misuse
        match b.pending with
        | none => do
          let s ← applyAll b.uses s
          g.gather rest s
        | some (opt, spelling) =>
          if opt.action.takesValue then
            match rest with
            | .plain argument :: rest => do
              let s ← applyAll (b.uses ++ [⟨opt, spelling, some argument⟩]) s
              g.gather rest s
            | _ => .error (.misuse (.valueMissing opt.name))
          else do
            let s ← applyAll (b.uses ++ [⟨opt, spelling, none⟩]) s
            g.gather rest s

/-- What a line says, from what holds when it says nothing. -/
def read (g : Grammar σ) (usual : σ) (arguments : List String) : Except Stop σ := do
  let tokens ← (g.tokens arguments).mapError .misuse
  let s ← g.gather tokens ⟨usual, false, []⟩
  match g.operand, s.filled with
  | some operand, false => .error (.misuse (.operandMissing operand.name))
  | _, _ =>
    if s.stray.isEmpty then .ok s.options else .error (.misuse (.unrecognized s.stray))

/-! ## Texts -/

/-- The help text. -/
def helpText (g : Grammar σ) : String := g.usage ++ "\n" ++ g.details

/-- The text of a misuse. -/
def misuseText (g : Grammar σ) (m : Misuse) : String :=
  g.usage ++ g.program ++ ": error: " ++ m.message ++ "\n"

end Grammar

end ShaderGraph.Command
